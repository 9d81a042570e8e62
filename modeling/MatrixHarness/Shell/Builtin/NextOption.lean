import MatrixHarness.Shell.State

/-! # The next option of the arguments

The command `getopts` tells one option at a time.  A form lists the letters that are known, each
with a colon behind it if a value belongs to it.  The shell keeps where the search stands, so that
several letters may share a word. -/
namespace MatrixHarness.Shell.Builtin

/-- What a form says of a letter: whether a value belongs to it, if the letter is known. -/
def knows? (c : Char) : List Char → Option Bool
  | [] => none
  | a :: ':' :: r => if a == c then some true else knows? c r
  | a :: r => if a == c then some false else knows? c r

/-- What one step of the search finds. -/
structure Step where
  letter : Char := '?'
  /-- The value of the option; none if there is to be none. -/
  value : Option (List Char) := none
  complaint : String := ""
  /-- Where the search goes on. -/
  index : Nat
  offset : Option Nat := none
  ended : Bool := false

/-- The step for a letter with others behind it in its word; the next argument has the index.  A
form with a colon in front wants no complaints. -/
def stepOn (form : List Char) (arguments : List (List Char)) (index : Nat) (c : Char)
    (behind : List Char) : Step :=
  let silent := form.head? == some ':'
  let word := (arguments[index - 2]?).getD []
  let offset := some (word.length - behind.length)
  let told (text : String) : String := if silent then "" else text
  let bad := if silent then some [c] else none
  match knows? c (if silent then form.tail else form) with
  | none =>
    { value := bad, index := index, offset := offset
      complaint := told ("Illegal option -" ++ String.ofList [c,'\n']) }
  | some false => { letter := c, value := some [], index := index, offset := offset }
  | some true =>
    if !behind.isEmpty then { letter := c, value := some behind, index := index }
    else
      match arguments[index - 1]? with
      | some value => { letter := c, value := some value, index := index + 1 }
      | none =>
        { letter := if silent then ':' else '?', value := bad, index := index
          complaint := told ("No arg for -" ++ String.ofList [c] ++ " option\n") }

/-- The step of the search from where it stands; none if there are no more options. -/
def nextStep (form : List Char) (arguments : List (List Char)) (walk : Walk) : Step :=
  let index := (walk.index.filter (· ≤ arguments.length + 1)).getD 1
  let offset := if walk.index == some index && 1 < index then walk.offset else none
  let pending := match offset with
    | some n => ((arguments[index - 2]?).getD []).drop n
    | none => []
  match pending, arguments[index - 1]? with
  | c :: cs, _ => stepOn form arguments index c cs
  | [], some ('-' :: c :: cs) =>
    if c == '-' && cs.isEmpty then { index := index + 1, ended := true }
    else stepOn form arguments (index + 1) c cs
  | [], _ => { index := index, ended := true }

def getopts (words : List (List Char)) : Sh Nat := do
  match words with
  | form :: name :: rest =>
    let s ← get
    let step := nextStep form (if rest.isEmpty then s.arguments else rest) s.walk
    set { s with walk := { index := none } }
    if !step.complaint.isEmpty then say 2 step.complaint.toList
    if !step.ended then
      match step.value with
      | some value => assign "OPTARG".toList value
      | none => modify fun s => { s with
          bindings := s.bindings.filter (·.name != "OPTARG".toList) }
    store "OPTIND".toList (digits step.index)
    if isName name then assign name [step.letter]
    else fail (name ++ ": bad variable name".toList)
    modify fun s => { s with walk := { index := some step.index, offset := step.offset } }
    return if step.ended then 1 else 0
  | _ => failWith "Usage: getopts optstring var [arg...]"

end MatrixHarness.Shell.Builtin
