import MatrixHarness.Environment
import MatrixHarness.Pass
import MatrixHarness.Style
import MatrixHarness.Text.Column

/-! # The report

What the harness prints on a console: a line for the steps of a pass, and at the end of the matrix
the summary of its passes or the banner of its failure. -/
namespace MatrixHarness

/-- How the console is spoken to. -/
structure Console where
  locale : String
  styled : Bool

namespace Console

def say (c : Console) (st : Style) (m : Message) : String :=
  st.paint c.styled 0 (m.text c.locale)

def line (s : String) : String := s ++ "\n"

def banner (c : Console) (st : Style) (m : Message) : String := "\n" ++ line (c.say st m)

def stateText (c : Console) (config : PassConfig) : PassState → String
  | .serverStarting => c.banner .bold (.variantBanner config.variant.name)
  | .serverRunning => line (c.say .blue .serverStarted)
  | .testRunning => line (c.say .blue (.running config.testRunnerCommandLine.shown))
  | .serverStopping => line (c.say .blue .killingServer)
  | .serverStopped => line (c.say .blue .serverKilled)
  | .notStarted => ""
  | .testPassed => ""
  | .testFailed => ""

/-- What is printed for a notice, and where. -/
def notice (c : Console) : Notice → List (Stream × String)
  | .entered config state =>
    let text := c.stateText config state
    if text.isEmpty then [] else [(.out,text)]
  | .cleanupFailed _ e => [(.err,line (c.say .yellow (.cleanupFailed e.text)))]

/-- A row of the table: the status, the variant, and what else there is to say. -/
def row (c : Console) (st : Style) (status : Message) (variant rest : String) : String :=
  line ("  - " ++ st.paint c.styled 10 (status.text c.locale) ++ " | " ++
    Text.alignLeft 16 variant ++ " | " ++ rest)

def resultRow (c : Console) (p : PassResult) : String :=
  c.row .green .statusPassed p.variant (Text.alignRight 10 p.duration.text)

/-- The end of a matrix in which every pass succeeded. -/
def summary (c : Console) (results : List PassResult) : String :=
  c.banner .bold .summaryBanner ++ String.join (results.map c.resultRow) ++
    c.banner .boldGreen .allPassed

def failureRow (c : Console) (f : PassFailure) : String :=
  c.row .red .statusFailed f.variant (f.reason.label c.locale)

def rule : String := String.ofList (List.replicate 80 '-')

def failure (c : Console) (t : Trail) : String :=
  c.banner .boldRed .failureBanner ++ line rule ++
    match t.failure? with
    | some f => c.failureRow f
    | none => ""

def opening (c : Console) (count : Nat) (server : RawText) : String :=
  line (c.say .cyan (.matrixBanner count server.lossy))

def interrupt (c : Console) : String := c.banner .yellow .interruptReceived

end Console

namespace Environment

/-- Whether to style reports, where no terminal is at the other end: only on demand. -/
def styled (env : Environment) : Bool :=
  match (env.get? "CLICOLOR_FORCE").bind RawText.text? with
  | some v => v != "0"
  | none => false

/-- Whether a variable is there and not empty. -/
def claims (env : Environment) (name : String) : Bool :=
  (env.get? name).any fun v => !v.bytes.isEmpty

/-- Whether to style texts about the command line: also on demand, whatever the demand says, unless
styles are unwanted. -/
def usageStyled (env : Environment) : Bool := env.claims "CLICOLOR_FORCE" && !env.claims "NO_COLOR"

end Environment
end MatrixHarness
