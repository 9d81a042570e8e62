import MatrixHarness.Duration
import MatrixHarness.Plan
import MatrixHarness.System.IoError
import MatrixHarness.System.WaitStatus

/-! # Hosts

What the harness asks of the system it runs on.  A host answers each call as it likes and changes
its state as it likes; nothing that is said of a run rests on more than the answers. -/
namespace MatrixHarness

/-- The number of a process, for the system a signed one of 32 bits.  Zero and the negative numbers
name groups of processes. -/
structure Pid where
  number : Nat
  inRange : 0 < number ∧ number < 2147483648
  deriving DecidableEq

inductive Role where
  | server
  | testRunner
  deriving DecidableEq

/-- The states of a pass.  The last two follow whenever a server was started, though the last only
if it could be stopped. -/
inductive PassState where
  | notStarted
  | serverStarting
  | serverRunning
  | testRunning
  | testPassed
  | testFailed
  | serverStopping
  | serverStopped
  deriving DecidableEq

/-- What a listener is told of a pass. -/
inductive Notice where
  | entered (config : PassConfig) (state : PassState)
  /-- The server could not be stopped after the test had failed. -/
  | cleanupFailed (config : PassConfig) (error : IoError)
  deriving DecidableEq

inductive Stream where
  | out
  | err
  deriving DecidableEq

structure Host (σ : Type) where
  spawn : Role → CommandLine → σ → Except IoError Pid × σ
  /-- Whether a child has ended; one that has is reaped. -/
  poll : Pid → σ → Except IoError (Option WaitStatus) × σ
  signal : Pid → Signal → σ → Except IoError Unit × σ
  /-- Lets time pass. -/
  pause : σ → σ
  /-- Hears a notice. -/
  hear : Notice → σ → σ
  print : Stream → String → σ → σ
  /-- Lets an interrupt ask to stop the run; the text is printed for each that arrives. -/
  listen : String → σ → σ
  /-- Someone has asked to stop the run. -/
  interrupted : σ → Bool
  now : σ → Duration

end MatrixHarness
