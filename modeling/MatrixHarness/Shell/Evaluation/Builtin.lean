import MatrixHarness.Shell.Builtin.Names
import MatrixHarness.Shell.Builtin.NextOption
import MatrixHarness.Shell.Builtin.Place
import MatrixHarness.Shell.Builtin.Variables
import MatrixHarness.Shell.Evaluation.Basic
import MatrixHarness.Shell.Format
import MatrixHarness.Shell.Test

/-! # Running built-in commands

The commands that the shell runs itself, by their names.  A special one that fails ends the
shell. -/
namespace MatrixHarness.Shell

open Machine

/-- The answer of a test; the command is known by the name it has. -/
def testCommand (words : List (List Char)) : Sh Nat := do
  match Test.answer (← act .files) (words.length + 1) words with
  | .ok answer => return if answer then 0 else 1
  | .error e => fail e

/-- Prints, and says if that cannot be done. -/
def printed (text : List Char) : Sh Nat := do
  match ← act (.write 1 (RawText.ofOctets text)) with
  | .ok () => return 0
  | .error _ =>
    complain (((← get).about.getD []) ++ ": I/O error".toList)
    return 1

def printfCommand (words : List (List Char)) : Sh Nat := do
  let g ← given [] [] words
  match g.words with
  | [] => failWith "usage: printf format [arg ...]"
  | format :: rest =>
    let p := Format.printf format rest
    let status ← if p.printed.isEmpty then pure 0 else printed p.printed
    p.complaints.forM complain
    match p.fatal with
    | some complaint => fail complaint
    | none => return if p.failed then 1 else status

/-- Leaves loops, as many as are told or as there are. -/
def leaveLoops (again : Bool) (words : List (List Char)) : Sh Nat := do
  let n ← match words with
    | [] => pure 1
    | w :: _ => do
      let n ← natural w
      if n = 0 then illegalNumber w else pure n
  let s ← get
  if s.loops = 0 then return 0
  else
    setStatus 0
    throw (.leave again (min n s.loops))

def statusWord (words : List (List Char)) : Sh Nat := do
  match words with
  | [] =>
    let s ← get
    return s.before.getD s.status
  | w :: _ => natural w

def runFile (self : Runner) (words : List (List Char)) : Sh Nat := do
  match words with
  | [] => return 0
  | name :: _ =>
    let s ← get
    let fs ← act .files
    let path ← if name.contains '/' then pure name
      else match findFile fs false .noSuchFile (candidates s name) with
        | .ok path => pure path
        | .error _ => fail (name ++ ": not found".toList)
    let text ← match fs.read (RawText.ofOctets path) with
      | .error e => if e = .isADirectory then pure [] else fail (openComplaint .input path e)
      | .ok text => pure text.octets
    do
      set { s with about := some path }
      let r ← attempt (runSource self {} { rest := text, isFile := true })
      match r with
      | .ok () => pure ()
      | .error .back => pure ()
      | .error f => throw f
      return (← get).status

def builtin? (self : Runner) (mode : Mode) (name : String) : Option (List (List Char) → Sh Nat) :=
  match name with
  | ":" => some fun _ => return 0
  | "true" => some fun _ => return 0
  | "false" => some fun _ => return 1
  | "." => some (runFile self)
  | "[" => some fun ws =>
    if (ws.getLast?.bind (·.head?)) == some ']' then testCommand ws.dropLast
    else failWith "missing ]"
  | "test" => some testCommand
  | "alias" => some Builtin.setAliases
  | "unalias" => some Builtin.dropAliases
  | "bg" => some Builtin.moveJob
  | "fg" => some Builtin.moveJob
  | "break" => some (leaveLoops false)
  | "continue" => some (leaveLoops true)
  | "cd" => some Builtin.cd
  | "chdir" => some Builtin.cd
  | "echo" => some fun ws => printed (Format.echo ws)
  | "eval" => some fun ws => do
    runText self { mode with last := false } (spaced ws)
    return (← get).status
  | "command" => some fun ws => do
    let g ← given ['p','v','V'] [] ws
    match g.words with
    | w :: _ => if g.has 'v' || g.has 'V' then describe (!g.has 'V') (!g.has 'p') w else return 0
    | [] => return 0
  | "exec" => some fun ws => if ws.isEmpty then return 0 else becomeProgram ws
  | "exit" => some fun ws => do
    setStatus ((← statusWord ws) % 256)
    throw .exit
  | "export" => some Builtin.exportAll
  | "getopts" => some Builtin.getopts
  | "hash" => some hashAll
  | "jobs" => some Builtin.jobs
  | "kill" => some Builtin.kill
  | "local" => some Builtin.makeLocal
  | "printf" => some printfCommand
  | "pwd" => some Builtin.pwd
  | "read" => some Builtin.read
  | "readonly" => some Builtin.readonly
  | "return" => some fun ws => do
    setStatus (← statusWord ws)
    throw .back
  | "set" => some Builtin.setAll
  | "shift" => some Builtin.shift
  | "times" => some fun _ => do
    say 1 "0m0.000000s 0m0.000000s\n0m0.000000s 0m0.000000s\n".toList
    return 0
  | "trap" => some Builtin.trap
  | "type" => some fun ws => do
    return (← ws.mapM (describe false true)).foldl max 0
  | "ulimit" => some fun ws => do
    let _ ← given "HSatfdscmlpnvwr".toList [] ws
    say 1 "unlimited\n".toList
    return 0
  | "umask" => some Builtin.umask
  | "unset" => some Builtin.unset
  | "wait" => some Builtin.wait
  | _ => none

/-- Runs a built-in command.  A special one that fails ends the shell. -/
def runBuiltin (special : Bool) (name : List Char) (command : List (List Char) → Sh Nat)
    (words : List (List Char)) : Sh Unit := do
  let before := (← get).about
  modify fun s => { s with about := some name }
  let r ← attempt (command words)
  modify fun s => { s with about := before }
  match r with
  | .ok n => setStatus n
  | .error .fail => if special then throw .fail
  | .error f => throw f

end MatrixHarness.Shell
