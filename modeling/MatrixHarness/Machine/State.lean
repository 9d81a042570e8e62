import MatrixHarness.Machine.Process
import MatrixHarness.Machine.Programs

/-! # The state of a machine

Files, processes, a clock, what was printed, and who may cancel a run: a user by an interrupt, a
listener by a notice, or anyone by a file that appears. -/
namespace MatrixHarness

namespace Machine

/-- What an opened file is. -/
inductive Target where
  | file (path : Path)
  | directory
  | device (d : Device)
  /-- One end of a pipe. -/
  | pipe (number : Nat) (writes : Bool)
  /-- A stream of the harness. -/
  | stream (s : Stream)
  deriving DecidableEq

structure Opened where
  target : Target
  access : Access
  position : Nat := 0

end Machine

structure Machine where
  files : Machine.Files := {}
  environment : Environment := .empty
  /-- In nanoseconds. -/
  clock : Nat := 0
  processes : List Machine.Process := []
  /-- How many processes were started. -/
  started : Nat := 0
  opened : Array Machine.Opened := #[]
  /-- What is written to each pipe and not yet read. -/
  pipes : Array RawText := #[]
  /-- The newest text comes first. -/
  printed : List (Stream × RawText) := []
  /-- Someone has asked to stop. -/
  cancelled : Bool := false
  /-- The notices at which a listener asks to stop. -/
  cancelOn : List (String × PassState) := []
  /-- The file whose appearance asks to stop. -/
  cancelWhenFile : Option RawText := none
  /-- What is printed for an interrupt, once the harness listens for one. -/
  interruptText : Option String := none

namespace Machine

/-- The process numbers of the first process of all, which takes in orphans, and of the harness. -/
def firstPid : Nat := 1
def harnessPid : Nat := 100

def nextPid (m : Machine) : Pid := ⟨(harnessPid + m.started) % 2147483647 + 1,by omega⟩

def process? (m : Machine) (pid : Nat) : Option Process :=
  m.processes.find? (·.pid == pid)

def update (pid : Nat) (f : Process → Process) (m : Machine) : Machine :=
  { m with processes := m.processes.map fun p => if p.pid == pid then f p else p }

/-- Children of processes that have ended go to the first process, which reaps them. -/
def tidy (m : Machine) : Machine :=
  let gone (pid : Nat) : Bool :=
    pid != harnessPid && m.processes.all fun p => p.pid != pid || p.ended.isSome
  let adopted := m.processes.map fun p => if gone p.parent then { p with parent := firstPid } else p
  { m with processes := adopted.filter fun p => p.ended.isNone || p.parent != firstPid }

def print (s : Stream) (text : RawText) (m : Machine) : Machine :=
  { m with printed := (s,text) :: m.printed }

def output (m : Machine) (s : Stream) : RawText :=
  ⟨(m.printed.reverse.filter (·.1 == s)).flatMap (·.2.bytes)⟩

def cancel (m : Machine) : Machine := { m with cancelled := true }

def interrupt (m : Machine) : Machine :=
  match m.interruptText with
  | some text => (m.print .out (RawText.ofString text)).cancel
  | none => m

/-- Asks to stop if the awaited file is there. -/
def watch (m : Machine) : Machine :=
  match m.cancelWhenFile with
  | some path => if m.files.has path then m.cancel else m
  | none => m

/-- Whether a process is there, be it only its remains. -/
def isThere (m : Machine) (pid : Nat) : Bool := (m.process? pid).isSome

def addOpened (o : Opened) (m : Machine) : Nat × Machine :=
  (m.opened.size,{ m with opened := m.opened.push o })

def setOpened (handle : Nat) (o : Opened) (m : Machine) : Machine :=
  { m with opened := m.opened.setIfInBounds handle o }

def holdsPipe (m : Machine) (number : Nat) (writes : Bool) : Bool :=
  m.processes.any fun p => p.descriptors.any fun d =>
    match m.opened[d.2]? with
    | some o => o.target == .pipe number writes
    | none => false

/-- How long it is until a process hears of a signal, in nanoseconds. -/
def hearingTime : Nat := 100000

def hasEnded (m : Machine) (pid : Nat) : Bool := (m.process? pid).any (·.ended.isSome)

/-- A process hears that a child has ended: at once if it is at work, a little later if it waits. -/
def hearEnd (m : Machine) (p : Process) : Process :=
  let p := if p.disposition .child = .caught then p.deliver .child else p
  match p.course with
  | .wait _ true _ _ => { p with wakes := max p.wakes (m.clock + hearingTime) }
  | _ => p

/-- Changes a process.  If it ends by that, its parent hears of it. -/
def affect (pid : Nat) (f : Process → Process) (m : Machine) : Machine :=
  let after := m.update pid f
  match after.process? pid with
  | none => after
  | some p =>
    (if after.hasEnded pid && !m.hasEnded pid then after.update p.parent after.hearEnd
      else after).tidy

def deliver (pid : Nat) (s : Signal) (m : Machine) : Machine :=
  m.affect pid fun p => { p.deliver s with wakes := max p.wakes (m.clock + hearingTime) }

/-- Starts the program of a command line.  It reads nothing and prints where the harness does. -/
def spawn (cl : CommandLine) (m : Machine) : Except IoError Pid × Machine :=
  match locateProgram m.files m.environment cl with
  | .error e => (.error e,m)
  | .ok pr =>
    let pid := m.nextPid
    let (input,m) := m.addOpened ⟨.device .null,{ reads := true },0⟩
    let (out,m) := m.addOpened ⟨.stream .out,{ writes := true },0⟩
    let (err,m) := m.addOpened ⟨.stream .err,{ writes := true },0⟩
    let p : Process :=
      { pid := pid.number, parent := harnessPid, course := courseOf pr m.environment
        descriptors := [(0,input),(1,out),(2,err)], place := m.files.place, wakes := m.clock }
    (.ok pid,{ m with processes := m.processes ++ [p], started := m.started + 1 })

/-- Whether a child has ended; if so, nothing of it remains. -/
def poll (pid : Pid) (m : Machine) : Except IoError (Option WaitStatus) × Machine :=
  match m.process? pid.number with
  | none => (.error .noChild,m)
  | some p =>
    match p.ended with
    | none => (.ok none,m)
    | some status =>
      (.ok (some status),
        { m with processes := m.processes.filter (·.pid != pid.number) }.tidy)

def signal (pid : Pid) (s : Signal) (m : Machine) : Except IoError Unit × Machine :=
  if m.isThere pid.number then (.ok (),m.deliver pid.number s)
  else (.error .noSuchProcess,m)

end Machine
end MatrixHarness
