import MatrixHarness.Arguments.Reader
import MatrixHarness.Plan
import MatrixHarness.Reference
import MatrixHarness.Settings

/-! # Resolution

What the passes share, from the command line, the settings file and the built-in defaults, in this
order of precedence.  Only a path from the settings file has its references replaced: a shell has
already done so for the command line. -/
namespace MatrixHarness.Resolution

/-- The test-runner of one who names none; it stands beside the program. -/
def testRunnerName : String := "test_memcached.py"

def join (directory : RawText) (name : String) : RawText :=
  if directory.bytes.isEmpty || directory.bytes.getLast? == some 0x2f then
    directory ++ RawText.ofString name
  else directory ++ RawText.ofString "/" ++ RawText.ofString name

def defaultTestRunner (directory : RawText) : RawText := join directory testRunnerName

/-- The path of the settings file whose references cannot be replaced, and why. -/
structure Failed where
  path : RawText
  cause : Reference.Unresolved
  deriving DecidableEq

def Failed.trail (locale : String) (f : Failed) : Trail := f.cause.trail locale f.path

/-- The test-runner: as the command line has it, else from the settings file, else the default. -/
def testRunner (env : Environment) (directory : RawText) (given fromFile : Option RawText) :
    Except Failed RawText :=
  match given, fromFile with
  | some path, _ => .ok path
  | none, some path =>
    match Reference.expand env path with
    | .ok expanded => .ok expanded
    | .error cause => .error ⟨path,cause⟩
  | none, none => .ok (defaultTestRunner directory)

@[simp] theorem testRunner_given (env : Environment) (directory path : RawText)
    (fromFile : Option RawText) :
    testRunner env directory (some path) fromFile = .ok path := rfl

@[simp] theorem testRunner_default (env : Environment) (directory : RawText) :
    testRunner env directory none none = .ok (defaultTestRunner directory) := rfl

def resolve (env : Environment) (directory : RawText) (i : Invocation) (s : Settings) :
    Except Failed MatrixSettings :=
  match testRunner env directory i.testRunner s.testRunner with
  | .error f => .error f
  | .ok path =>
    .ok { server := i.memcached, testRunner := path,
          smp := (i.smp <|> s.smp).getD MatrixSettings.defaultSmp, fast := i.fast || s.fast }

end MatrixHarness.Resolution
