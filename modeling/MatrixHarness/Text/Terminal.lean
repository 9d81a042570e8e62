/-! # What a terminal prints

A terminal prints the characters of a text and obeys its control sequences.  Here the sequences are
taken out, complete or not, and with them every control character that is no blank.  A blank inside
an escape or its parameters is printed all the same, and inside a string it is not.

What becomes of a sequence with a blank inside depends on how the text is written.  A text that is
taken as a whole ends the sequence there (`printed`).  A text that flows to a stream goes on with it
once something stands there that is not printed (`flowed`).  Where no control characters are, both
are the text itself. -/
namespace MatrixHarness.Text

/-- Where a terminal stands in a control sequence. -/
inductive Control where
  /-- In none. -/
  | idle
  /-- After an escape. -/
  | escaped
  /-- In an escape of more than one character. -/
  | intermediate
  /-- After an escape and `[`, up to the letter or sign that ends the sequence. -/
  | parameters
  /-- In a command, up to a bell. -/
  | command
  /-- Before the string of a device: nothing read, parameters, or signs behind them. -/
  | deviceStart
  | deviceParameters
  | deviceIntermediate
  /-- In a string. -/
  | device
  deriving DecidableEq

def isLayout (c : Char) : Bool := c = '\t' || c = '\n' || c = '\x0c' || c = '\r'

def isControl (c : Char) : Bool := c < ' ' || c = '\x7f'

/-- Characters of more than one byte belong to no sequence. -/
def isWide (c : Char) : Bool := 0x80 ≤ c.toNat

/-- A string ends at the byte 9C, be it a part of a character. -/
def endsDevice (c : Char) : Bool := (String.utf8EncodeChar c).contains 0x9c

/-- Where a sequence goes with a character that belongs to it. -/
def Control.next : Control → Char → Control
  | .escaped, c =>
    if c < '0' then .intermediate
    else if c = '[' then .parameters
    else if c = ']' then .command
    else if c = 'P' then .deviceStart
    else if c = 'X' || c = '^' || c = '_' then .device
    else .idle
  | .intermediate, c => if c < '0' then .intermediate else .idle
  | .parameters, c => if c < '@' then .parameters else .idle
  | .deviceStart, c =>
    if c < '0' then .deviceIntermediate else if c < '@' then .deviceParameters else .device
  | .deviceParameters, c =>
    if c < '0' then .deviceIntermediate else if c < '<' then .deviceParameters else .device
  | .deviceIntermediate, c => if c < '0' then .deviceIntermediate else .device
  | k, _ => k

/-- Whether blanks are printed in the middle of a sequence. -/
def Control.lets : Control → Bool
  | .escaped => true
  | .intermediate => true
  | .parameters => true
  | _ => false

/-- Where the terminal stands after a character, and whether it prints it. -/
def Control.step (k : Control) (c : Char) : Control × Bool :=
  if c = '\x1b' then (.escaped,false)
  else if c = '\x18' || c = '\x1a' then (.idle,false)
  else match k with
    | .idle => (.idle,isLayout c || !isControl c)
    | .command => (if c = '\x07' then .idle else .command,false)
    | .device => (if endsDevice c then .idle else .device,false)
    | k => (if isControl c || isWide c then k else k.next c,k.lets && isLayout c)

def printed : Control → List Char → List Char
  | _, [] => []
  | k, c :: r => if (k.step c).2 then c :: printed .idle r else printed (k.step c).1 r

/-- What is printed of a text that flows to a stream.  Behind a printed character all is printed
that a terminal in no sequence would print. -/
def flowed : Bool → Control → List Char → List Char
  | _, _, [] => []
  | printing, k, c :: r =>
    if printing && (Control.step .idle c).2 then
      c :: flowed true (if isWide c then .idle else k) r
    else if (k.step c).2 then c :: flowed true (k.step c).1 r
    else flowed false (k.step c).1 r

/-- A character that is printed and leaves the terminal in no sequence. -/
theorem step_idle {c : Char} (h : isLayout c ∨ ¬ isControl c) :
    Control.step .idle c = (.idle,true) := by
  have ne : ∀ d : Char, isControl d → ¬ isLayout d → c ≠ d := by
    rintro d hd hl rfl
    exact h.elim hl (· hd)
  have := ne '\x1b' (by decide) (by decide)
  have := ne '\x18' (by decide) (by decide)
  have := ne '\x1a' (by decide) (by decide)
  by_cases hl : isLayout c <;> simp_all [Control.step]

/-- Text without control characters is printed as it is. -/
theorem printed_idle_append {s : List Char} (h : ∀ c ∈ s, isLayout c ∨ ¬ isControl c)
    (r : List Char) : printed .idle (s ++ r) = s ++ printed .idle r := by
  induction s with
  | nil => rfl
  | cons c s ih =>
    simp [printed,step_idle (h c (by simp)),ih fun d hd => h d (by simp [hd])]

/-- In no sequence it makes no difference whether something was just printed. -/
theorem flowed_idle (printing : Bool) (s : List Char) :
    flowed printing .idle s = flowed false .idle s := by
  cases s with
  | nil => rfl
  | cons c r =>
    cases printing with
    | false => rfl
    | true =>
      by_cases hp : (Control.step .idle c).2
      · have : (Control.step .idle c).1 = .idle := by
          unfold Control.step at hp ⊢
          split at hp
          · simp at hp
          · split at hp
            · simp at hp
            · simp_all
        simp [flowed,hp,this]
      · simp [flowed,hp]

/-- Text without control characters flows as it is. -/
theorem flowed_idle_append {s : List Char} (h : ∀ c ∈ s, isLayout c ∨ ¬ isControl c)
    (r : List Char) : flowed false .idle (s ++ r) = s ++ flowed false .idle r := by
  induction s with
  | nil => rfl
  | cons c s ih =>
    have step := step_idle (h c (by simp))
    simp [flowed,step,flowed_idle true,ih fun d hd => h d (by simp [hd])]

end MatrixHarness.Text
