import MatrixHarness.Run

/-! # Children

Looking after a child process.  A child is polled until it ends; after each poll that finds it
running, time passes.  How often a child may be polled is the patience of the one who waits: when it
is used up the answer is `none`, the child still running.  A handle that is dropped takes its child
down with it, unless the child was reaped. -/
namespace MatrixHarness

/-- How waiting for a child ended. -/
inductive Waited where
  /-- The child ended by itself. -/
  | exited (status : WaitStatus)
  /-- The run was cancelled first, and the child was killed and reaped. -/
  | cancelled
  deriving DecidableEq

namespace Child

variable {σ : Type}

/-- The number of a child that is not reaped; of a reaped one it may belong to another process. -/
def id? : Child → Option Pid
  | unreaped pid => some pid
  | reaped _ => none

/-- Whether a child has ended, without waiting for it. -/
def tryWait (h : Host σ) (c : Child) (r : Run σ) :
    Except IoError (Option WaitStatus) × Child × Run σ :=
  match c with
  | reaped status => (.ok (some status),c,r)
  | unreaped pid =>
    match r.poll h pid with
    | (.ok (some status),r) => (.ok (some status),reaped status,r)
    | (answer,r) => (answer,c,r)

def wait (h : Host σ) : Nat → Child → Run σ → Option (Except IoError WaitStatus) × Child × Run σ
  | 0, c, r => (none,c,r)
  | patience + 1, c, r =>
    match c.tryWait h r with
    | (.error e,c,r) => (some (.error e),c,r)
    | (.ok (some status),c,r) => (some (.ok status),c,r)
    | (.ok none,c,r) => wait h patience c (r.pause h)

/-- Gives up the handle of a child. -/
def drop (h : Host σ) (c : Child) (r : Run σ) : Run σ :=
  match c with
  | unreaped pid => (r.signal h pid .kill).2
  | reaped _ => r

/-- Kills a child, waits until it has ended and gives up its handle.  A child that was sent the
signal is not sent another when the wait for it fails. -/
def kill (h : Host σ) (patience : Nat) (c : Child) (r : Run σ) :
    Option (Except IoError WaitStatus) × Run σ :=
  match c with
  | reaped status => (some (.ok status),r)
  | unreaped pid =>
    match r.signal h pid .kill with
    | (.error e,r) => (some (.error e),c.drop h r)
    | (.ok (),r) =>
      let (answer,_,r) := wait h patience c r
      (answer,r)

/-- Waits until a child has ended, but kills it when the run is cancelled.  A child that has ended
at the same moment has ended by itself. -/
def waitOrCancel (h : Host σ) : Nat → Child → Run σ → Option (Except IoError Waited) × Run σ
  | 0, _, r => (none,r)
  | patience + 1, c, r =>
    match c.tryWait h r with
    | (.error e,c,r) => (some (.error e),c.drop h r)
    | (.ok (some status),_,r) => (some (.ok (.exited status)),r)
    | (.ok none,c,r) =>
      match r.look with
      | (false,r) => waitOrCancel h patience c (r.pause h)
      | (true,r) =>
        let (answer,r) := c.kill h patience r
        (answer.map (Except.map fun _ => .cancelled),r)

/-- Asks a child to terminate, if it is not reaped.  The system knows a process by a signed number
of 32 bits. -/
def requestTermination (h : Host σ) (c : Child) (r : Run σ) : Except IoError Unit × Run σ :=
  match c.id? with
  | none => (.ok (),r)
  | some pid =>
    if pid.number < 2147483648 then r.signal h pid .term
    else (.error (.other "out of range integral type conversion attempted"),r)

/-- Asks a child to terminate and waits until it has ended.  A child that has already ended is not
asked. -/
def terminate (h : Host σ) (patience : Nat) (c : Child) (r : Run σ) :
    Option (Except IoError WaitStatus) × Child × Run σ :=
  match c.tryWait h r with
  | (.error e,c,r) => (some (.error e),c,r)
  | (.ok (some status),c,r) => (some (.ok status),c,r)
  | (.ok none,c,r) =>
    match c.requestTermination h r with
    | (.error e,r) => (some (.error e),c,r)
    | (.ok (),r) => wait h patience c r

def shutdown (h : Host σ) (patience : Nat) (c : Child) (r : Run σ) :
    Option (Except IoError WaitStatus) × Run σ :=
  match c.terminate h patience (r.note (.shutdownBegun c)) with
  | (none,_,r) => (none,r)
  | (some answer,left,r) => (some answer,(left.drop h r).note (.shutdownEnded c answer))

end Child
end MatrixHarness
