import MatrixHarness.Machine.Course
import MatrixHarness.Shell.Calculation
import MatrixHarness.Shell.Source

/-! # The state of a shell

What a shell knows while it runs a script, and how its commands end.  A command may end by leaving
loops, by returning from a function, by ending the shell, or by a failure that ends the shell unless
someone stands in between. -/
namespace MatrixHarness.Shell

open Machine

structure Variable where
  name : List Char
  value : Option (List Char) := none
  exported : Bool := false
  /-- It may not be changed. -/
  fixed : Bool := false

/-- Commands that were started together, each with its end. -/
structure Job where
  number : Nat := 0
  members : List (Nat × Option WaitStatus)
  /-- The shell has waited for it. -/
  waited : Bool := false

/-- Where the search for options among the arguments stands. -/
structure Walk where
  /-- The place of the next argument, from one on; none if the search has lost its way. -/
  index : Option Nat := some 1
  /-- How much of the argument before that has been used, if there may be more in it. -/
  offset : Option Nat := none

/-- The search stands before an argument; before the first one if none is told. -/
def Walk.at (n : Nat) : Walk := { index := some (max n 1) }

structure State where
  name : List Char
  arguments : List (List Char) := []
  status : Nat := 0
  line : Nat := 1
  /-- The line up to which the script was read. -/
  readTo : Nat := 1
  /-- The command that complaints are about. -/
  about : Option (List Char) := none
  bindings : List Variable := []
  functions : List (List Char × Command) := []
  aliases : List (List Char × List Char) := []
  /-- The options that are set, each by its letter. -/
  options : List Char := []
  /-- What to do when a signal arrives; signal 0 is the end of the shell. -/
  traps : List (Nat × List Char) := []
  /-- Signals that something was to be done about, each with whether the shell is deaf to it. -/
  met : List (Nat × Bool) := []
  /-- Signals that have arrived and about which something is still to be done. -/
  arrived : List Signal := []
  /-- The commands that were found on the search path. -/
  found : List (List Char) := []
  self : Nat := 0
  background : Option Nat := none
  jobs : List Job := []
  /-- The loops around the command. -/
  loops : Nat := 0
  /-- The variables to put back at the end of each function around the command. -/
  locals : List (List (List Char × Option Variable)) := []
  /-- The status when a trap began. -/
  before : Option Nat := none
  /-- The status of the last command inside a word. -/
  inner : Option Nat := none
  walk : Walk := {}

/-- How a command ends before its time. -/
inductive Flow where
  /-- The shell ends. -/
  | exit
  /-- The command fails. -/
  | fail
  /-- Loops end, or go on with the next round. -/
  | leave (again : Bool) (levels : Nat)
  | back
  deriving DecidableEq

abbrev Sh := ExceptT Flow (StateT State Doing)

def act {α : Type} (d : Doing α) : Sh α := ExceptT.lift (StateT.lift d)

def attempt {α : Type} (m : Sh α) : Sh (Except Flow α) := ExceptT.mk do
  let r ← m.run
  return .ok r

/-- Ends as told. -/
def conclude {α : Type} : Except Flow α → Sh α
  | .ok a => return a
  | .error f => throw f

/-- Writes on a descriptor, without asking whether that went well. -/
def say (descriptor : Nat) (text : List Char) : Sh Unit := do
  let _ ← act (.write descriptor (RawText.ofOctets text))

def setStatus (n : Nat) : Sh Unit := modify fun s => { s with status := n }

def complain (text : List Char) : Sh Unit := do
  let s ← get
  let about := (s.about.map (· ++ [':',' '])).getD []
  say 2 (s.name ++ ": ".toList ++ digits s.line ++ ": ".toList ++ about ++ text ++ ['\n'])

def fail {α : Type} (text : List Char) : Sh α := do
  complain text
  setStatus 2
  throw .fail

def failWith {α : Type} (text : String) : Sh α := fail text.toList

def illegalNumber {α : Type} (text : List Char) : Sh α := fail ("Illegal number: ".toList ++ text)

/-- A number that is not negative and fits in 31 bits. -/
def natural (text : List Char) : Sh Nat :=
  match wholeNumber? false text with
  | some (.ofNat n) => if n < 2147483648 then return n else illegalNumber text
  | _ => illegalNumber text

namespace State

def named? (s : State) (name : List Char) : Option Variable :=
  s.bindings.find? (·.name == name)

def value? (s : State) (name : List Char) : Option (List Char) :=
  (s.named? name).bind (·.value)

def put (v : Variable) (s : State) : State :=
  { s with bindings := v :: s.bindings.filter (·.name != v.name) }

def hasOption (s : State) (letter : Char) : Bool := s.options.contains letter

def trap? (s : State) (n : Nat) : Option (List Char) :=
  (s.traps.find? (·.1 == n)).map (·.2)

def isTrapless (s : State) : Bool := s.traps.all (·.2.isEmpty)

def setTrap (n : Nat) (action : Option (List Char)) (s : State) : State :=
  { s with traps := (action.map fun a => (n,a)).toList ++ s.traps.filter (·.1 != n) }

def environment (s : State) : Environment :=
  ⟨s.bindings.reverse.filterMap fun v =>
    if v.exported then v.value.map fun value => (String.ofList v.name,RawText.ofOctets value)
    else none⟩

/-- The characters between which words are split. -/
def separators (s : State) : List Char := (s.value? "IFS".toList).getD [' ','\t','\n']

def putBack (s : State) (v : List Char × Option Variable) : State :=
  let s := match v.2 with
    | some old => s.put old
    | none => { s with bindings := s.bindings.filter (·.name != v.1) }
  if v.1 == "PATH".toList then { s with found := [] }
  else if v.1 == "OPTIND".toList then
    { s with walk := .at ((((v.2.bind (·.value))).bind number?).getD 1) }
  else s

end State

/-- A variable that may be changed; it need not be there yet. -/
def changeable (name : List Char) : Sh Variable := do
  let v := ((← get).named? name).getD { name := name }
  if v.fixed then fail (name ++ ": is read only".toList) else return v

/-- Gives a variable a value that the shell itself has no use for. -/
def store (name value : List Char) : Sh Unit := do
  let v ← changeable name
  modify fun s =>
    s.put { v with value := some value, exported := v.exported || s.hasOption 'a' }

/-- Does what the shell does when a variable of its own is to change. -/
def heed (name value : List Char) : Sh Unit := do
  let _ ← changeable name
  if name == "PATH".toList then modify fun s => { s with found := [] }
  else if name == "OPTIND".toList then
    let n ← if value.all Char.isDigit then natural value else illegalNumber value
    modify fun s => { s with walk := .at n }

def assign (name value : List Char) : Sh Unit := do
  heed name value
  store name value

/-- The variables that a shell starts with, those of its environment among them. -/
def startVariables (env : Environment) (parent : Nat) (place : List Char) : List Variable :=
  let given := env.entries.filterMap fun e =>
    if isName e.1.toList then
      some { name := e.1.toList, value := some e.2.octets, exported := true : Variable }
    else none
  let own := [("IFS",[' ','\t','\n']),("OPTIND",['1']),("PS1",['#',' ']),
    ("PS2",['>',' ']),("PS4",['+',' ']),("PPID",digits parent)]
  let fresh := ["IFS","OPTIND","PPID","PWD"].map String.toList
  let path := "/usr/local/sbin:/usr/local/bin:/usr/sbin:/usr/bin:/sbin:/bin".toList
  let kept := given.filter (fun v => !fresh.contains v.name)
  let defaults := own.map fun o => { name := o.1.toList, value := some o.2 : Variable }
  let search : List Variable :=
    if kept.any (·.name == "PATH".toList) then []
    else [{ name := "PATH".toList, value := some path }]
  { name := "PWD".toList, value := some place, exported := true } ::
    defaults.filter (fun d => kept.all (·.name != d.name)) ++ search ++ kept

end MatrixHarness.Shell
