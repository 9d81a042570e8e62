import MatrixHarness.Environment
import MatrixHarness.Machine.Files
import MatrixHarness.System.WaitStatus

/-! # Courses

The course of a process: it asks the machine for one thing after another, and how it goes on depends
on the answer.  `Doing` writes courses down one request at a time; what is done gives a value, and
the course behind it is still open. -/
namespace MatrixHarness.Machine

/-- How a file is opened. -/
structure Access where
  reads : Bool := false
  writes : Bool := false
  /-- A file that is not there is made. -/
  creates : Bool := false
  truncates : Bool := false
  appends : Bool := false
  /-- A regular file that is there is left alone. -/
  fresh : Bool := false
  deriving DecidableEq

/-- What a signal does to a process. -/
inductive Disposition where
  | usual
  | ignored
  /-- The process is told of it. -/
  | caught
  deriving DecidableEq

/-- What a process knows of itself. -/
structure Self where
  pid : Nat
  parent : Nat
  /-- The permissions that new files do not get. -/
  mask : Nat

/-- The children that a process waits for. -/
inductive Awaited where
  | any
  | child (pid : Nat)
  deriving DecidableEq

inductive Course where
  | exit (code : Nat)
  | self (k : Self → Course)
  | clock (k : Nat → Course)
  | sleep (nanoseconds : Nat) (k : Unit → Course)
  /-- At most so many bytes; none at the end. -/
  | read (descriptor most : Nat) (k : Except IoError RawText → Course)
  | write (descriptor : Nat) (text : RawText) (k : Except IoError Unit → Course)
  | openFile (path : RawText) (access : Access) (k : Except IoError Nat → Course)
  /-- The second descriptor becomes what the first one is. -/
  | duplicate (descriptor copy : Nat) (k : Except IoError Unit → Course)
  /-- The first free descriptor from a number on becomes what this one is. -/
  | keep (descriptor least : Nat) (k : Except IoError Nat → Course)
  | close (descriptor : Nat) (k : Unit → Course)
  /-- The descriptors to read from and to write to. -/
  | pipe (k : Nat × Nat → Course)
  /-- Changes the files, all at once, and tells how they were. -/
  | files (change : Files → Files) (k : Files → Course)
  | enter (path : RawText) (k : Except IoError Unit → Course)
  | setMask (mask : Nat) (k : Unit → Course)
  /-- Starts a child with a course of its own; the number is the child's. -/
  | fork (child : Unit → Course) (k : Nat → Course)
  /-- Becomes a program, and goes on only if it cannot. -/
  | become (path : RawText) (words : List RawText) (env : Environment) (k : IoError → Course)
  /-- The child that has ended.  None if none has and the process does not wait; it may also be kept
  from waiting by a signal of which it is to be told. -/
  | wait (awaited : Awaited) (blocks alert : Bool)
      (k : Except IoError (Option (Nat × WaitStatus)) → Course)
  | signal (target : Int) (s : Signal) (k : Except IoError Unit → Course)
  | dispose (s : Signal) (d : Disposition) (k : Disposition → Course)
  /-- The signals of which the process is to be told. -/
  | caught (k : List Signal → Course)

def Doing (α : Type) : Type := (α → Course) → Course

namespace Doing

instance : Monad Doing where
  pure a := fun k => k a
  bind m f := fun k => m fun a => f a k

def course (m : Doing Nat) : Course := m Course.exit

def exit {α : Type} (code : Nat) : Doing α := fun _ => Course.exit code
def self : Doing Self := Course.self
def clock : Doing Nat := Course.clock
def sleep (nanoseconds : Nat) : Doing Unit := Course.sleep nanoseconds
def read (descriptor most : Nat) : Doing (Except IoError RawText) := Course.read descriptor most
def write (descriptor : Nat) (text : RawText) : Doing (Except IoError Unit) :=
  Course.write descriptor text
def openFile (path : RawText) (access : Access) : Doing (Except IoError Nat) :=
  Course.openFile path access
def duplicate (descriptor copy : Nat) : Doing (Except IoError Unit) :=
  Course.duplicate descriptor copy
def keep (descriptor least : Nat) : Doing (Except IoError Nat) := Course.keep descriptor least
def close (descriptor : Nat) : Doing Unit := Course.close descriptor
def pipe : Doing (Nat × Nat) := Course.pipe
def enter (path : RawText) : Doing (Except IoError Unit) := Course.enter path
def setMask (mask : Nat) : Doing Unit := Course.setMask mask
def fork (child : Doing Nat) : Doing Nat := Course.fork fun _ => child.course
def become (path : RawText) (words : List RawText) (env : Environment) : Doing IoError :=
  Course.become path words env
def wait (awaited : Awaited) (blocks alert : Bool) :
    Doing (Except IoError (Option (Nat × WaitStatus))) := Course.wait awaited blocks alert
def signal (target : Int) (s : Signal) : Doing (Except IoError Unit) := Course.signal target s
def dispose (s : Signal) (d : Disposition) : Doing Disposition := Course.dispose s d
def caught : Doing (List Signal) := Course.caught

def files : Doing Files := Course.files id

/-- Changes the files, or finds that they cannot be changed so. -/
def change (f : Files → Except IoError Files) : Doing (Except IoError Unit) := fun k =>
  Course.files (fun fs => (f fs).toOption.getD fs) fun fs => k ((f fs).map fun _ => ())

end Doing
end MatrixHarness.Machine
