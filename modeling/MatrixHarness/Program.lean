import MatrixHarness.Arguments.Help
import MatrixHarness.Arguments.Reader
import MatrixHarness.Locale
import MatrixHarness.Matrix
import MatrixHarness.Report
import MatrixHarness.Resolution
import MatrixHarness.Settings.File

/-! # The program

From the words of the command line to the exit code.  Whatever can fail before the matrix fails
before any process is started. -/
namespace MatrixHarness

/-- What the program runs in. -/
structure Program (σ : Type) where
  host : Host σ
  environment : Environment
  /-- The directory that the program stands in. -/
  directory : RawText
  contentsOf : RawText → Except IoError RawText
  /-- How often a child is polled at most. -/
  patience : Nat

namespace Program

variable {σ : Type}

/-- The passes of a program that reports on a console. -/
def harness (P : Program σ) (locale : String) (console : Console) : Harness σ where
  host := P.host
  locale := locale
  listener := console.notice
  patience := P.patience

def close (P : Program σ) (console : Console) (result : Except Trail (List PassResult))
    (r : Run σ) : Run σ :=
  match result with
  | .ok results => r.print P.host (.out,console.summary results)
  | .error t => r.print P.host (.out,console.failure t)

/-- Runs planned passes between a banner and a summary. -/
def runPlan (P : Program σ) (locale : String) (console : Console) (server : RawText)
    (configs : List PassConfig) (r : Run σ) :
    Option (Except Trail (List PassResult)) × Run σ :=
  let r := r.print P.host (.out,console.opening configs.length server)
  let r := r.listen P.host console.interrupt
  match (P.harness locale console).runAll configs r with
  | (none,r) => (none,r)
  | (some result,r) => (some result,P.close console result r)

def nothingPlanned (locale : String) : Trail :=
  Trail.ofAccount (.worded (Message.noVariants.text locale))

/-- Does what the command line and the settings file say.  Errors are worded in the locale, and the
console may speak another. -/
def execute (P : Program σ) (locale : String) (console : Console) (i : Invocation) (s : Settings)
    (r : Run σ) : Option (Except Trail (List PassResult)) × Run σ :=
  match Resolution.resolve P.environment P.directory i s with
  | .error f => (some (.error (f.trail locale)),r)
  | .ok settings =>
    match Plan.make? settings Variant.builtIn with
    | none => (some (.error (nothingPlanned locale)),r)
    | some configs => P.runPlan locale console settings.server configs r

/-- The exit codes: of a run that did what it should, of one that failed, and of one that was told
something it does not understand. -/
def exitSuccess : Nat := 0
def exitFailure : Nat := 1
def exitUsage : Nat := 2

def fail (P : Program σ) (locale : String) (t : Trail) (r : Run σ) : Option Nat × Run σ :=
  (some exitFailure,r.print P.host (.err,"Error: " ++ t.text locale ++ "\n"))

/-- The settings of the file that the command line names, if it names one. -/
def settings (P : Program σ) (i : Invocation) : Except Settings.LoadFailure Settings :=
  match i.config with
  | none => .ok {}
  | some path => Settings.load P.contentsOf path

/-- Chooses a locale and makes it the active one. -/
def activate (P : Program σ) (explicit : Option String) : StateM String String := do
  let locale := Locale.choose explicit P.environment
  set locale
  return locale

/-- The locale once the settings are known: theirs counts if the command line names none. -/
def settleLocale (P : Program σ) (lang : Option String) (s : Settings) (locale : String) :
    StateM String String :=
  match lang, s.language with
  | none, some l => P.activate (some l)
  | _, _ => return locale

/-- What a command line is executed with. -/
structure Prepared where
  invocation : Invocation
  settings : Settings
  /-- The locale that is passed on. -/
  locale : String

/-- What becomes of a command line. -/
inductive Begun where
  | help (program locale : String)
  | version
  | refused (program : String) (why : Arguments.Refusal)
  | unsettled (f : Settings.LoadFailure)
  | ready (p : Prepared)

/-- The way of the program to where it executes a command line, if it comes to that.  The state is
the active locale. -/
def prepare (P : Program σ) (words : List RawText) : StateM String Begun := do
  let locale ← P.activate (Arguments.glanceLanguage (words.map RawText.lossy))
  match Arguments.read words with
  | .help program => return .help program locale
  | .version => return .version
  | .refused program why => return .refused program why
  | .run i lang =>
    match P.settings i with
    | .error f => return .unsettled f
    | .ok s => return .ready ⟨i,s,← P.settleLocale lang s locale⟩

/-- The end of the program, from the end of what it executed. -/
def conclude (P : Program σ) (active : String) :
    Option (Except Trail (List PassResult)) × Run σ → Option Nat × Run σ
  | (none,r) => (none,r)
  | (some (.ok _),r) => (some exitSuccess,r)
  | (some (.error t),r) => P.fail active t r

/-- The program: its exit code, if it comes to an end. -/
def run (P : Program σ) (words : List RawText) (r : Run σ) : Option Nat × Run σ :=
  let styled := P.environment.usageStyled
  match (P.prepare words).run Locale.fallback with
  | (.help program locale,_) =>
    (some exitSuccess,r.print P.host (.out,(Arguments.help locale program).shown styled))
  | (.version,_) => (some exitSuccess,r.print P.host (.out,Arguments.versionText))
  | (.refused program why,_) =>
    (some exitUsage,r.print P.host (.err,(why.marked program).shown styled))
  | (.unsettled f,active) => P.fail active (f.trail active) r
  | (.ready p,active) => P.conclude active
    (P.execute active ⟨p.locale,P.environment.styled⟩ p.invocation p.settings r)

end Program
end MatrixHarness
