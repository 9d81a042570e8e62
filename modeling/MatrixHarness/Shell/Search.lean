import MatrixHarness.Machine.Program
import MatrixHarness.Shell.State

/-! # Where commands are found

A name with a slash is the path of a command; any other is looked for in the directories that the
variable `PATH` lists. -/
namespace MatrixHarness.Shell

open Machine

/-- What is told of a file that is not there or cannot be used. -/
def missingText (missing : String) (e : IoError) : List Char :=
  if e = .noSuchFile || e = .notADirectory then missing.toList else e.plainText.toList

/-- The paths under which a command may be found. -/
def candidates (s : State) (name : List Char) : List (List Char) :=
  if name.contains '/' then [name]
  else
    (((s.value? "PATH".toList).getD []).splitOnP (· == ':')).map fun d =>
      if d.isEmpty then name else d ++ '/' :: name

/-- The first of some paths under which there is a file that may be a command.  The error is that of
the last file that may not. -/
def findFile (fs : Files) (executes : Bool) :
    IoError → List (List Char) → Except IoError (List Char)
  | e, [] => .error e
  | e, path :: paths =>
    match fs.lookUp (RawText.ofOctets path) with
    | .ok (.regular mode _) =>
      if executes && !mayExecute mode then findFile fs executes .accessDenied paths
      else .ok path
    | .ok _ => findFile fs executes .accessDenied paths
    | .error e' =>
      findFile fs executes (if e' = .noSuchFile || e' = .notADirectory then e else e') paths

def findCommand (fs : Files) (s : State) (name : List Char) : Except IoError (List Char) :=
  findFile fs true .noSuchFile (candidates s name)

def commandComplaint (name : List Char) (e : IoError) : List Char :=
  name ++ ": ".toList ++ missingText "not found" e

end MatrixHarness.Shell
