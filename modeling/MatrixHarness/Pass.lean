import MatrixHarness.Child
import MatrixHarness.Failure

/-! # Passes

One pass of the matrix: start the server, run the test-runner against it, stop the server.  Once a
server is started it is stopped whatever becomes of the test, and the pass ends only then.  An
answer of `none` says that the harness is still waiting for a child. -/
namespace MatrixHarness

/-- A pass that succeeded. -/
structure PassResult where
  variant : String
  /-- What was run against the server. -/
  commandLine : CommandLine
  /-- From the start of the server to its end. -/
  duration : Duration
  deriving DecidableEq

/-- What runs the passes. -/
structure Harness (σ : Type) where
  host : Host σ
  /-- The locale of accounts that are worded when they are given. -/
  locale : String
  /-- What is printed for a notice. -/
  listener : Notice → List (Stream × String)
  /-- How often a child is polled at most. -/
  patience : Nat

namespace Harness

variable {σ : Type}

def notify (H : Harness σ) (n : Notice) (r : Run σ) : Run σ :=
  (r.hear H.host n).printAll H.host (H.listener n)

def enter (H : Harness σ) (config : PassConfig) (state : PassState) (r : Run σ) : Run σ :=
  H.notify (.entered config state) r

end Harness

namespace Pass

def failed (config : PassConfig) (reason : Reason) (status : Option WaitStatus) : Trail :=
  Trail.ofAccount (.failure ⟨config.variant.name,reason,status⟩)

/-- A pass that failed by an error of the system, at a stage that the message tells. -/
def failedBy (locale : String) (config : PassConfig) (reason : Reason) (stage : Message)
    (e : IoError) : Trail :=
  ((Trail.ofAccount (.io e)).within (.worded (stage.text locale))).within
    (.failure ⟨config.variant.name,reason,none⟩)

@[simp] theorem failure?_failed (config : PassConfig) (reason : Reason)
    (status : Option WaitStatus) :
    (failed config reason status).failure? = some ⟨config.variant.name,reason,status⟩ := rfl

@[simp] theorem failure?_failedBy (locale : String) (config : PassConfig) (reason : Reason)
    (stage : Message) (e : IoError) :
    (failedBy locale config reason stage e).failure? =
      some ⟨config.variant.name,reason,none⟩ := by simp [failedBy]

/-- The result of a pass from how the test went and how the server was stopped, and the error to
report beside it.  A test that failed is the failure of the pass in any case. -/
def settle (locale : String) (config : PassConfig) (outcome : Except Trail Unit)
    (stopped : Except IoError WaitStatus) (duration : Duration) :
    Except Trail PassResult × Option IoError :=
  match outcome, stopped with
  | .ok (), .ok _ => (.ok ⟨config.variant.name,config.testRunnerCommandLine,duration⟩,none)
  | .ok (), .error e => (.error (failedBy locale config .fault .serverNotStopped e),none)
  | .error t, .ok _ => (.error t,none)
  | .error t, .error e => (.error t,some e)

end Pass

namespace Harness

variable {σ : Type}

/-- What the end of a test-runner means. -/
def judge (H : Harness σ) (config : PassConfig) (w : Waited) (r : Run σ) :
    Except Trail Unit × Run σ :=
  match w with
  | .exited status =>
    if status.success then (.ok (),H.enter config .testPassed r)
    else (.error (Pass.failed config .testFailed (some status)),H.enter config .testFailed r)
  | .cancelled => (.error (Pass.failed config .interrupted none),H.enter config .testFailed r)

def runTest (H : Harness σ) (config : PassConfig) (r : Run σ) :
    Option (Except Trail Unit) × Run σ :=
  let r := H.enter config .testRunning r
  match r.spawn H.host .testRunner config.testRunnerCommandLine with
  | (.error e,r) =>
    (some (.error (Pass.failedBy H.locale config .spawn
      (.testRunnerNotStarted config.testRunner.lossy) e)),r)
  | (.ok pid,r) =>
    match Child.waitOrCancel H.host H.patience (.unreaped pid) r with
    | (none,r) => (none,r)
    | (some (.error e),r) =>
      (some (.error (Pass.failedBy H.locale config .fault .testRunnerNotAwaited e)),r)
    | (some (.ok w),r) =>
      let (outcome,r) := H.judge config w r
      (some outcome,r)

/-- Settles a pass and reports the error that its result does not tell. -/
def conclude (H : Harness σ) (config : PassConfig) (outcome : Except Trail Unit)
    (stopped : Except IoError WaitStatus) (start : Duration) (r : Run σ) :
    Except Trail PassResult × Run σ :=
  let duration := ⟨(H.host.now r.world).nanoseconds - start.nanoseconds⟩
  match Pass.settle H.locale config outcome stopped duration with
  | (result,none) => (result,r)
  | (result,some e) => (result,H.notify (.cleanupFailed config e) r)

/-- Stops the server after the test, and concludes the pass. -/
def stop (H : Harness σ) (config : PassConfig) (server : Child) (outcome : Except Trail Unit)
    (start : Duration) (r : Run σ) : Option (Except Trail PassResult) × Run σ :=
  let r := H.enter config .serverStopping r
  match server.shutdown H.host H.patience r with
  | (none,r) => (none,r)
  | (some (.error e),r) =>
    let (result,r) := H.conclude config outcome (.error e) start r
    (some result,r)
  | (some (.ok status),r) =>
    let (result,r) := H.conclude config outcome (.ok status) start
      (H.enter config .serverStopped r)
    (some result,r)

def runPass (H : Harness σ) (config : PassConfig) (r : Run σ) :
    Option (Except Trail PassResult) × Run σ :=
  let r := H.enter config .notStarted r
  match r.look with
  | (true,r) => (some (.error (Pass.failed config .interrupted none)),r)
  | (false,r) =>
    let start := H.host.now r.world
    let r := H.enter config .serverStarting r
    match r.spawn H.host .server config.serverCommandLine with
    | (.error e,r) =>
      (some (.error (Pass.failedBy H.locale config .spawn
        (.serverNotStarted config.server.lossy) e)),r)
    | (.ok pid,r) =>
      let r := H.enter config .serverRunning r
      match H.runTest config r with
      | (none,r) => (none,r)
      | (some outcome,r) => H.stop config (.unreaped pid) outcome start r

end Harness
end MatrixHarness
