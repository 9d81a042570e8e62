import MatrixHarness.Shell.Builtin.Jobs
import MatrixHarness.Shell.Builtin.Signals
import MatrixHarness.Shell.Reader
import MatrixHarness.Shell.Redirection

/-! # Running scripts

How a shell goes through a script, what it does about signals, how it starts children and programs,
and how functions are called; all in terms of a runner of commands, which is a parameter. -/
namespace MatrixHarness.Shell

open Machine

/-- How a command is run. -/
structure Mode where
  /-- Nothing comes behind, so the process may become the command. -/
  last : Bool := false
  /-- The status is asked for, so failure does not end the shell. -/
  tested : Bool := false

abbrev Runner := Mode → Command → Sh Unit

def misread {α : Type} (m : Misread) : Sh α := do
  modify fun s => { s with line := m.line }
  fail m.text

def isEnd : Option Token → Bool
  | some .scriptEnd => true
  | _ => false

/-- Shows the lines of a file that were read, if that is wanted. -/
def showRead (before after : Source) : Sh Unit := do
  if before.isFile && (← get).hasOption 'v' then
    say 2 (before.rest.take (before.rest.length - after.rest.length))

def runLines (self : Runner) (mode : Mode) : Nat → Source → Sh Bool
  | 0, _ => return false
  | fuel + 1, source => do
    match readLine { source with aliases := (← get).aliases } with
    | .error m => misread m
    | .ok (.ended,_) => return false
    | .ok (.command c,next) =>
      showRead source next
      modify fun s => { s with readTo := next.line }
      self { mode with last := mode.last && isEnd next.kept } c
      let more ← runLines self mode fuel next
      return more || !(match c with
        | .nothing => true
        | _ => false)

/-- Runs a script; one without commands succeeds. -/
def runSource (self : Runner) (mode : Mode) (source : Source) : Sh Unit := do
  if !(← runLines self mode (source.rest.length + 2) source) then setStatus 0

def runText (self : Runner) (mode : Mode) (text : List Char) : Sh Unit :=
  runSource self mode { rest := text }

def runTraps (self : Runner) : Sh Unit := do
  let _ ← noteSignals
  let signals := (← get).arrived.mergeSort fun a b => a.number ≤ b.number
  modify fun s => { s with arrived := [] }
  signals.forM fun signal => do
    let s ← get
    match s.trap? signal.number with
    | none => pure ()
    | some action =>
      set { s with before := some (s.before.getD s.status) }
      let _ ← runLines self {} (action.length + 2) { rest := action }
      modify fun t => { t with status := s.status, before := s.before }

def exitCode (self : Runner) : Sh Nat := do
  let s ← get
  match s.trap? 0 with
  | none => return s.status
  | some action =>
    set { s.setTrap 0 none with loops := 0, before := some s.status }
    match ← attempt (runLines self {} (action.length + 2) { rest := action }) with
    | .error .exit => return (← get).status
    | .error .fail => return (← get).status
    | _ => return s.status

def wholeCourse (self : Runner) (m : Sh Unit) (s : State) : Doing Nat := do
  let all : Sh Nat := do
    let _ ← attempt m
    exitCode self
  let (code,s) ← all.run.run s
  return match code with
    | .ok n => n
    | .error _ => s.status

/-- A child forgets what is done about signals, unless they are ignored, and the jobs of others. -/
def enterChild : Sh Unit := do
  let s ← get
  s.traps.forM fun t => do
    if !t.2.isEmpty && t.1 ≠ 0 then Builtin.dispose t.1 .usual
  modify fun s => { s with
    traps := s.traps.filter (·.2.isEmpty), jobs := [], arrived := [], before := none }

def fork (self : Runner) (m : Sh Unit) : Sh Nat := do
  let s ← get
  act (.fork (wholeCourse self (do enterChild; m) s))

/-- Tries to become a program; a file that is no program is read as a script. -/
def becomeFile (path : RawText) (words : List RawText) (env : Environment) : Doing IoError := do
  let e ← Doing.become path words env
  if e = .badExecutable then
    let shell := RawText.ofString "/bin/sh"
    Doing.become shell (shell :: path :: words.tail) env
  else return e

def becomeAny (words : List RawText) (env : Environment) : IoError → List RawText → Doing IoError
  | e, [] => return e
  | e, path :: paths => do
    let e' ← becomeFile path words env
    becomeAny words env (if e' = .noSuchFile || e' = .notADirectory then e else e') paths

def becomeProgram {α : Type} (words : List (List Char)) : Sh α := do
  let s ← get
  let name := words.headD []
  let paths := (candidates s name).map RawText.ofOctets
  let e ← act (becomeAny (words.map RawText.ofOctets) s.environment .noSuchFile paths)
  complain (commandComplaint name e)
  setStatus (if e ∈ [.noSuchFile,.notADirectory,.nameTooLong,.tooManyLinks] then 127 else 126)
  throw .exit

def runProgram (self : Runner) (mode : Mode) (words : List (List Char)) : Sh Unit := do
  if mode.last && (← get).isTrapless then becomeProgram words
  else
    let pid ← fork self (becomeProgram words)
    setStatus (← awaitAll [pid])

def readAll (descriptor : Nat) : Nat → Sh (List Char)
  | 0 => return []
  | fuel + 1 => do
    match ← act (.read descriptor 65536) with
    | .error _ => return []
    | .ok text =>
      if text.bytes.isEmpty then return []
      else return text.octets ++ (← readAll descriptor fuel)

def outputOf (self : Runner) (c : Command) : Sh (List Char) := do
  let ends ← act .pipe
  let pid ← fork self do
    act (.close ends.1)
    lead ends.2 1
    self { last := true } c
  act (.close ends.2)
  let text ← readAll ends.1 longestWait
  act (.close ends.1)
  let status ← awaitAll [pid]
  modify fun s => { s with status := status, inner := some status }
  return text

/-- How many functions may be under way at once. -/
def deepestCall : Nat := 1000

def callFunction (self : Runner) (mode : Mode) (body : Command) (words : List (List Char)) :
    Sh Unit := do
  let s ← get
  if deepestCall ≤ s.locals.length then
    fail ("Maximum function recursion depth (".toList ++ digits deepestCall ++
      ") reached".toList)
  set { s with arguments := words, loops := 0, locals := [] :: s.locals, walk := {} }
  let r ← attempt (self { mode with last := false } body)
  modify fun t =>
    (t.locals.headD []).foldl State.putBack
      { t with arguments := s.arguments, loops := s.loops, locals := s.locals, walk := s.walk }
  match r with
  | .error .back => pure ()
  | r => conclude r

end MatrixHarness.Shell
