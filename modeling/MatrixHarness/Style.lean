/-! # Styled text

Text for a terminal in a colour or weight.  With styling off the text is as it is; with styling on
it stands between the sequence that sets the style and the one that resets it, and the style is set
again after each reset inside. -/
namespace MatrixHarness

inductive Style where
  | bold | blue | cyan | green | red | yellow | boldGreen | boldRed
  deriving DecidableEq

namespace Style

def parameters : Style → String
  | bold => "1" | blue => "34" | cyan => "36" | green => "32" | red => "31" | yellow => "33"
  | boldGreen => "1;32" | boldRed => "1;31"

def start (st : Style) : List Char := '\x1b' :: '[' :: st.parameters.toList ++ ['m']

def reset : List Char := ['\x1b','[','0','m']

/-- Sets the style again after each reset. -/
def keepAfterReset (st : Style) : List Char → List Char
  | '\x1b' :: '[' :: '0' :: 'm' :: r => reset ++ st.start ++ keepAfterReset st r
  | c :: r => c :: keepAfterReset st r
  | [] => []

/-- Text in a style, at the left end of a column of the given width; the column is part of the
styled text. -/
def paint (styled : Bool) (st : Style) (width : Nat) (s : String) : String :=
  if styled then
    let inner := st.keepAfterReset s.toList
    let fill := List.replicate (width - inner.length) ' '
    String.ofList (st.start ++ inner ++ fill ++ reset)
  else s ++ String.ofList (List.replicate (width - s.length) ' ')

/-- Parameters of a control sequence, its end, and what follows; none if it does not end in `m`. -/
def sequenceRest? : List Char → Option (List Char)
  | [] => none
  | c :: r => if c = 'm' then some r else if c.isDigit || c = ';' then sequenceRest? r else none

theorem sequenceRest?_length {s r : List Char} (h : sequenceRest? s = some r) :
    r.length < s.length := by
  induction s with
  | nil => simp [sequenceRest?] at h
  | cons c s ih =>
    simp only [sequenceRest?] at h
    split at h
    · simp_all
    · split at h
      · have := ih h; simp only [List.length_cons]; omega
      · simp at h

/-- The text without the sequences that set or reset a style. -/
def strip : List Char → List Char
  | [] => []
  | c :: r =>
    match c, r with
    | '\x1b', '[' :: t =>
      match _h : sequenceRest? t with
      | some u => strip u
      | none => '\x1b' :: strip ('[' :: t)
    | c, r => c :: strip r
termination_by s => s.length
decreasing_by
  · have := sequenceRest?_length _h; simp only [List.length_cons]; omega
  · simp
  · simp

end Style
end MatrixHarness
