import MatrixHarness.Machine.Step

/-! # A machine as a host

Time passes on a machine only while the harness pauses.  The process whose moment comes first makes
a step, and the clock goes to that moment; one whose request cannot be answered yet lets others go
first. -/
namespace MatrixHarness.Machine

/-- The first of some processes that can make a step. -/
def firstStep (m : Machine) : List Process → Option Machine
  | [] => none
  | p :: ps =>
    match step { m with clock := max m.clock p.wakes } p with
    | some m => some m
    | none => firstStep m ps

/-- One step of one process; none if there is none that can make one. -/
def stepAny (m : Machine) : Option Machine :=
  m.firstStep ((m.processes.filter Process.isLive).mergeSort fun p q => p.wakes ≤ q.wakes)

def endedChildren (m : Machine) : Nat :=
  m.processes.countP fun p => p.parent == harnessPid && p.ended.isSome

/-- How long a pause is at least, unless a child of the harness ends; and how many steps it may
have. -/
def pauseTime : Nat := 500000
def pauseSteps : Nat := 10000

/-- Lets processes make steps up to a moment, or until a child of the harness ends. -/
def passTime (moment ended : Nat) : Nat → Machine → Machine
  | 0, m => m
  | steps + 1, m =>
    match m.stepAny with
    | none => m
    | some m =>
      if moment ≤ m.clock || ended < m.endedChildren then m else passTime moment ended steps m

def pause (m : Machine) : Machine :=
  (m.passTime (m.clock + pauseTime) m.endedChildren pauseSteps).watch

def hear (n : Notice) (m : Machine) : Machine :=
  match n with
  | .entered config state => if (config.variant.name,state) ∈ m.cancelOn then m.cancel else m
  | .cleanupFailed _ _ => m

def host : Host Machine where
  spawn := fun _ cl m => m.spawn cl
  poll := poll
  signal := signal
  pause := pause
  hear := hear
  print := fun s text m => m.print s (RawText.ofString text)
  listen := fun text m => { m with interruptText := some text }
  interrupted := Machine.cancelled
  now := fun m => ⟨m.clock⟩

def patience : Nat := 200000

/-- Lets time pass until something holds; none if it does not come to hold. -/
def pauseUntil (done : Machine → Bool) : Nat → Machine → Option Machine
  | 0, m => if done m then some m else none
  | patience + 1, m => if done m then some m else pauseUntil done patience m.pause

/-- How many of the processes whose numbers a file lists are still there. -/
def countLeft (m : Machine) (path : RawText) : Nat :=
  match m.files.read path with
  | .error _ => 0
  | .ok contents =>
    ((contents.octets.splitOnP (· == '\n')).filterMap Shell.number?).countP m.isThere

end MatrixHarness.Machine
