import MatrixHarness.Host

/-! # Runs

The state of a run: the host's own, whether the run is cancelled, and a record of all that was done
and answered.  A cancelled run stays cancelled, since each call only adds to what was asked
before. -/
namespace MatrixHarness

/-- The handle of a child process. -/
inductive Child where
  /-- Running or ended, but not yet reaped. -/
  | unreaped (pid : Pid)
  | reaped (status : WaitStatus)
  deriving DecidableEq

/-- One thing that the harness did, with the answer. -/
inductive Act where
  | spawned (role : Role) (commandLine : CommandLine) (answer : Except IoError Pid)
  | polled (pid : Pid) (answer : Except IoError (Option WaitStatus))
  | signaled (pid : Pid) (signal : Signal) (answer : Except IoError Unit)
  | paused
  | told (notice : Notice)
  | printed (stream : Stream) (text : String)
  /-- Interrupts ask to stop the run from here on. -/
  | listened (text : String)
  /-- It looked whether the run is cancelled. -/
  | looked (cancelled : Bool)
  /-- It began to shut a child down. -/
  | shutdownBegun (c : Child)
  /-- It was through with that, and gave up the handle. -/
  | shutdownEnded (c : Child) (answer : Except IoError WaitStatus)

def Act.notice : Act → Option Notice
  | told n => some n
  | _ => none

structure Run (σ : Type) where
  world : σ
  cancelled : Bool := false
  /-- The newest act comes first. -/
  acts : List Act := []

namespace Run

variable {σ : Type}

/-- All acts in the order of time. -/
def history (r : Run σ) : List Act := r.acts.reverse

/-- After an act that left the host in a new state. -/
def after (h : Host σ) (a : Act) (world : σ) (r : Run σ) : Run σ where
  world := world
  cancelled := r.cancelled || h.interrupted world
  acts := a :: r.acts

@[simp] theorem history_after (h : Host σ) (a : Act) (world : σ) (r : Run σ) :
    (r.after h a world).history = r.history ++ [a] := by simp [history,after]

theorem cancelled_after (h : Host σ) (a : Act) (world : σ) (r : Run σ) (hc : r.cancelled = true) :
    (r.after h a world).cancelled = true := by simp [after,hc]

def spawn (h : Host σ) (role : Role) (cl : CommandLine) (r : Run σ) : Except IoError Pid × Run σ :=
  let (answer,world) := h.spawn role cl r.world
  (answer,r.after h (.spawned role cl answer) world)

def poll (h : Host σ) (pid : Pid) (r : Run σ) : Except IoError (Option WaitStatus) × Run σ :=
  let (answer,world) := h.poll pid r.world
  (answer,r.after h (.polled pid answer) world)

def signal (h : Host σ) (pid : Pid) (s : Signal) (r : Run σ) : Except IoError Unit × Run σ :=
  let (answer,world) := h.signal pid s r.world
  (answer,r.after h (.signaled pid s answer) world)

def pause (h : Host σ) (r : Run σ) : Run σ := r.after h .paused (h.pause r.world)

def hear (h : Host σ) (n : Notice) (r : Run σ) : Run σ := r.after h (.told n) (h.hear n r.world)

def print (h : Host σ) (p : Stream × String) (r : Run σ) : Run σ :=
  r.after h (.printed p.1 p.2) (h.print p.1 p.2 r.world)

def printAll (h : Host σ) (ps : List (Stream × String)) (r : Run σ) : Run σ :=
  ps.foldl (fun r p => r.print h p) r

def listen (h : Host σ) (text : String) (r : Run σ) : Run σ :=
  r.after h (.listened text) (h.listen text r.world)

def note (a : Act) (r : Run σ) : Run σ := { r with acts := a :: r.acts }

def look (r : Run σ) : Bool × Run σ := (r.cancelled,r.note (.looked r.cancelled))

@[simp] theorem history_print (h : Host σ) (p : Stream × String) (r : Run σ) :
    (r.print h p).history = r.history ++ [.printed p.1 p.2] := by simp [print]

@[simp] theorem history_listen (h : Host σ) (text : String) (r : Run σ) :
    (r.listen h text).history = r.history ++ [.listened text] := by simp [listen]

@[simp] theorem history_note (a : Act) (r : Run σ) :
    (r.note a).history = r.history ++ [a] := by simp [note,history]

@[simp] theorem history_look (r : Run σ) :
    r.look.2.history = r.history ++ [.looked r.cancelled] := by simp [look]

def notices (r : Run σ) : List Notice := r.history.filterMap Act.notice

end Run
end MatrixHarness
