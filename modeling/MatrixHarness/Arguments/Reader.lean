import MatrixHarness.Arguments.Refusal
import MatrixHarness.Likeness
import MatrixHarness.Text.After
import MatrixHarness.Text.Raw

/-! # Reading a command line

A flag is written `--name`, and its value behind `=` or as the next word; three flags also have a
letter.  A value that is the next word does not begin with a dash, unless it is a dash alone.  Each
flag is given at most once. -/
namespace MatrixHarness

/-- What the program is told to do. -/
structure Invocation where
  memcached : RawText
  fast : Bool := false
  testRunner : Option RawText := none
  smp : Option UInt32 := none
  config : Option RawText := none
  deriving DecidableEq, Inhabited

namespace Arguments

/-- What a word looks like. -/
inductive Shape where
  /-- Two dashes alone: no flag follows. -/
  | stop
  /-- Two dashes and a name, and a value behind the first `=`. -/
  | long (name : List UInt8) (value : Option RawText)
  /-- One dash and letters. -/
  | short (letters : List UInt8)
  | plain
  deriving DecidableEq

def dash : UInt8 := 0x2d
def equals : UInt8 := 0x3d

def splitEquals : List UInt8 → List UInt8 × Option RawText
  | [] => ([],none)
  | b :: bs =>
    if b = equals then ([],some ⟨bs⟩)
    else
      let r := splitEquals bs
      (b :: r.1,r.2)

def Shape.of (word : RawText) : Shape :=
  match word.bytes with
  | [] => .plain
  | [_] => .plain
  | b :: c :: bs =>
    if b = dash then
      if c = dash then
        if bs.isEmpty then .stop
        else
          let r := splitEquals bs
          .long r.1 r.2
      else .short (c :: bs)
    else .plain

/-- What has been read: the flags in the order in which they took effect, and their values. -/
structure State where
  used : List Flag := []
  lang : Option String := none
  memcached : Option RawText := none
  fast : Bool := false
  testRunner : Option RawText := none
  smp : Option UInt32 := none
  config : Option RawText := none
  /-- A flag that waits for its value or, with its value, for the next flag or the end. -/
  pending : Option (Flag × Option RawText) := none

def path (f : Flag) (v : RawText) : Except Refusal RawText :=
  if v.bytes.isEmpty then .error (.noValue f) else .ok v

def text (v : RawText) : Except Refusal String :=
  match v.text? with
  | some s => .ok s
  | none => .error .notText

/-- A hint of concurrency is a whole number from 1 to the greatest of 32 bits. -/
def smpValue (v : RawText) : Except Refusal UInt32 :=
  match v.text? with
  | none => .error .notText
  | some s =>
    match Number.readSigned s with
    | .error why => .error (.badNumber s (.unreadable why))
    | .ok n =>
      if 1 ≤ n ∧ n ≤ greatestSmp then .ok (UInt32.ofNat n.toNat)
      else .error (.badNumber s (.outOfRange n))

def keep (f : Flag) (v : RawText) (st : State) : Except Refusal State :=
  match f with
  | .lang => (text v).map fun s => { st with lang := some s }
  | .memcached => (path f v).map fun p => { st with memcached := some p }
  | .testRunner => (path f v).map fun p => { st with testRunner := some p }
  | .smp => (smpValue v).map fun n => { st with smp := some n }
  | .config => (path f v).map fun p => { st with config := some p }
  | _ => .ok st

/-- A flag takes effect: the new state and, if it is refused, why.  A flag that is given again loses
its place among those in use. -/
def give (f : Flag) (v : Option RawText) (st : State) : State × Option Refusal :=
  match v with
  | none => (st,some (.noValue f))
  | some v =>
    if f ∈ st.used then ({ st with used := st.used.erase f },some (.repeated f))
    else
      let st := { st with used := st.used ++ [f] }
      match keep f v st with
      | .ok st => (st,none)
      | .error r => (st,some r)

/-- The flag that waits, if one does, takes effect. -/
def settle (st : State) : State × Option Refusal :=
  match st.pending with
  | none => (st,none)
  | some (f,v) => give f v { st with pending := none }

/-- The end of reading. -/
inductive Outcome where
  | accepted (st : State)
  | help
  | version
  | refused (r : Refusal)

/-- After one word: go on, or end. -/
inductive Step where
  | next (st : State)
  | done (o : Outcome)

/-- Settles, and goes on if nothing is refused. -/
def settled (st : State) (go : State → Step) : Step :=
  match settle st with
  | (st,none) => go st
  | (_,some r) => .done (.refused r)

def giveNow (f : Flag) (v : RawText) (st : State) : Step :=
  settled st fun st =>
    match give f (some v) st with
    | (st,none) => .next st
    | (_,some r) => .done (.refused r)

def await (f : Flag) (st : State) : Step :=
  settled st fun st => .next { st with pending := some (f,none) }

def raise (f : Flag) (st : State) : Step :=
  settled st fun st =>
    match f with
    | .help => .done .help
    | .version => .done .version
    | f =>
      if f ∈ st.used then .done (.refused (.repeated f))
      else .next { st with used := st.used ++ [f], fast := true }

/-- A name that is no flag; the flag that is most like it counts as used. -/
def unknownName (name : String) (st : State) : Step :=
  let st := (settle st).1
  let similar := (Likeness.closest? name (Flag.all.map Flag.name)).bind Flag.ofName?
  .done (.refused (.unknown ("--" ++ name) similar (st.used ++ similar.toList)))

def readLong (name : List UInt8) (value : Option RawText) (st : State) : Step :=
  match (RawText.text? ⟨name⟩).bind Flag.ofName? with
  | none => unknownName (RawText.lossy ⟨name⟩) st
  | some f =>
    match f.takesValue, value with
    | true, some v => giveNow f v st
    | true, none => await f st
    | false, some v => .done (.refused (.unexpectedValue v.lossy f (st.used ++ [f])))
    | false, none => raise f st

/-- The value that stands right behind a letter, without the `=` that may come first. -/
def attached? : List UInt8 → Option RawText
  | [] => none
  | b :: bs => if b = equals then some ⟨bs⟩ else some ⟨b :: bs⟩

/-- Letters behind one dash.  None of those without a value lets another follow. -/
def readShort (letters : List UInt8) (st : State) : Step :=
  match RawText.pieces letters with
  | .char c :: _ =>
    match Flag.ofLetter? c with
    | none => .done (.refused (.unknown ("-" ++ String.singleton c) none []))
    | some f =>
      if f.takesValue then
        match attached? (letters.drop c.utf8Size) with
        | some v => giveNow f v st
        | none => await f st
      else raise f st
  | _ => .done (.refused (.unknown ("-" ++ RawText.lossy ⟨letters⟩) none []))

/-- A word that is no flag: the value that is awaited, or one too many. -/
def readPlain (word : RawText) (st : State) : Step :=
  match st.pending with
  | some (f,none) => .next { st with pending := some (f,some word) }
  | _ => .done (.refused (.unknown word.lossy none []))

def readWord (word : RawText) (st : State) : Step :=
  match Shape.of word with
  | .stop => .next st
  | .long name value => readLong name value st
  | .short letters => readShort letters st
  | .plain => readPlain word st

def finish (st : State) : Outcome :=
  match settle st with
  | (_,some r) => .refused r
  | (st,none) => if st.memcached.isSome then .accepted st else .refused (.missing st.used)

def readFrom (st : State) : List RawText → Outcome
  | [] => finish st
  | word :: words =>
    match Shape.of word with
    | .stop =>
      match words with
      | [] => finish st
      | extra :: _ => .refused (.unknown extra.lossy none [])
    | _ =>
      match readWord word st with
      | .next st => readFrom st words
      | .done o => o

/-- The name by which the program was called: the last part of its path. -/
def calledName (first : RawText) : String :=
  let slash : UInt8 := 0x2f
  let parts := (first.bytes.splitOnP (· == slash)).filter fun p => !p.isEmpty && p != [0x2e]
  match parts.getLast? with
  | none => programName
  | some p => if p = [0x2e,0x2e] then programName else (RawText.text? ⟨p⟩).getD programName

/-- The answer to a command line: what to do and in which language, or a text for the user. -/
inductive Answer where
  | run (invocation : Invocation) (lang : Option String)
  | help (program : String)
  | version
  | refused (program : String) (r : Refusal)

def State.invocation? (st : State) : Option Invocation :=
  st.memcached.map fun m =>
    { memcached := m, fast := st.fast, testRunner := st.testRunner, smp := st.smp,
      config := st.config }

/-- Reads a command line, the name of the program first. -/
def read (words : List RawText) : Answer :=
  let program := match words with
    | first :: _ => calledName first
    | [] => programName
  match readFrom {} words.tail with
  | .help => .help program
  | .version => .version
  | .refused r => .refused program r
  | .accepted st =>
    match st.invocation? with
    | some i => .run i st.lang
    | none => .refused program (.missing st.used)

/-- The language of a command line, found without reading its flags: the word after the first
`--lang`, or else what the first word that begins with `--lang=` goes on with. -/
def glanceLanguage (words : List String) : Option String :=
  match words.dropWhile (· != "--lang") with
  | _ :: next :: _ => some next
  | [_] => none
  | [] =>
    words.findSome? fun w =>
      (Text.after? "--lang=".toList w.toList).map String.ofList

end Arguments
end MatrixHarness
