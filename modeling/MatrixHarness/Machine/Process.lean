import MatrixHarness.Host
import MatrixHarness.Machine.Course

/-! # Processes

A process goes along its course.  Besides it has what the machine keeps for it: its descriptors, its
place, and what signals do to it.  A signal ends a process unless it is ignored or the process wants
to be told of it. -/
namespace MatrixHarness.Machine

structure Process where
  pid : Nat
  parent : Nat
  course : Course
  /-- What each descriptor leads to, by the number of an opened file. -/
  descriptors : List (Nat × Nat) := []
  place : Path := workplace
  mask : Nat := 0o022
  dispositions : List (Signal × Disposition) := []
  /-- Signals of which the process is still to be told. -/
  pending : List Signal := []
  /-- Signals that wait until a stopped process goes on. -/
  held : List Signal := []
  stopped : Bool := false
  /-- The moment from which the process can go on. -/
  wakes : Nat := 0
  ended : Option WaitStatus := none

namespace Process

def finish (status : WaitStatus) (p : Process) : Process :=
  { p with descriptors := [], pending := [], held := [], ended := some status }

/-- The signals that do nothing unless the process is told of them. -/
def harmless : List Signal := [⟨17⟩,⟨18⟩,⟨20⟩,⟨21⟩,⟨22⟩,⟨23⟩,⟨28⟩]

/-- The signal that stops a process. -/
def stop : Signal := ⟨19⟩

def disposition (p : Process) (s : Signal) : Disposition :=
  ((p.dispositions.find? (·.1 == s)).map (·.2)).getD .usual

/-- Sets what a signal does; nothing can be done about two of them. -/
def setDisposition (s : Signal) (d : Disposition) (p : Process) : Process :=
  if s = .kill || s = stop then p
  else { p with dispositions := (s,d) :: p.dispositions.filter (·.1 != s) }

/-- A signal does to a running process what it is to do. -/
def obey (s : Signal) (p : Process) : Process :=
  match p.disposition s with
  | .ignored => p
  | .caught => { p with pending := if s ∈ p.pending then p.pending else p.pending ++ [s] }
  | .usual => if s ∈ harmless then p else p.finish (.ofSignal s)

def goOn (p : Process) : Process :=
  p.held.foldl (fun p s => if p.ended.isSome then p else p.obey s)
    { p with stopped := false, held := [] }

/-- A signal arrives.  There is no signal 0; sending it only asks for the process. -/
def deliver (s : Signal) (p : Process) : Process :=
  if p.ended.isSome || s.number == 0 then p
  else if s = .kill then p.finish (.ofSignal s)
  else if s = stop then { p with stopped := true }
  else if s = .cont then p.goOn.obey s
  else if p.stopped then { p with held := p.held ++ [s] }
  else p.obey s

/-- Whether the process can go on at some time. -/
def isLive (p : Process) : Bool := p.ended.isNone && !p.stopped

/-- The descriptors from this one on are not handed on to another program. -/
def firstPrivate : Nat := 10

/-- What a process keeps when it becomes another program: what it ignores it goes on ignoring. -/
def become (c : Course) (p : Process) : Process :=
  { p with
    course := c
    descriptors := p.descriptors.filter (·.1 < firstPrivate)
    dispositions := p.dispositions.filter (·.2 == .ignored)
    pending := [] }

def handle? (p : Process) (descriptor : Nat) : Option Nat :=
  (p.descriptors.find? (·.1 == descriptor)).map (·.2)

def lead (descriptor handle : Nat) (p : Process) : Process :=
  { p with descriptors :=
    (descriptor,handle) :: p.descriptors.filter (·.1 != descriptor) }

def close (descriptor : Nat) (p : Process) : Process :=
  { p with descriptors := p.descriptors.filter (·.1 != descriptor) }

/-- The first descriptor from a number on that leads nowhere. -/
def free (p : Process) (least : Nat) : Nat :=
  let numbers := (List.range (p.descriptors.length + 1)).map (least + ·)
  (numbers.find? fun n => (p.handle? n).isNone).getD least

end Process
end MatrixHarness.Machine
