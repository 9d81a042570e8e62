/-! # Signals -/
namespace MatrixHarness

structure Signal where
  number : Nat
  deriving DecidableEq

namespace Signal

/-- The names of the signals 1 to 31, without their common first letters. -/
def names : List String :=
  ["HUP","INT","QUIT","ILL","TRAP","ABRT","BUS","FPE","KILL","USR1","SEGV","USR2",
   "PIPE","ALRM","TERM","STKFLT","CHLD","CONT","STOP","TSTP","TTIN","TTOU","URG","XCPU",
   "XFSZ","VTALRM","PROF","WINCH","IO","PWR","SYS"]

def descriptions : List String :=
  ["Hangup","Interrupt","Quit","Illegal instruction","Trace/breakpoint trap","Aborted",
   "Bus error","Floating point exception","Killed","User defined signal 1",
   "Segmentation fault","User defined signal 2","Broken pipe","Alarm clock","Terminated",
   "Stack fault","Child exited","Continued","Stopped (signal)","Stopped",
   "Stopped (tty input)","Stopped (tty output)","Urgent I/O condition",
   "CPU time limit exceeded","File size limit exceeded","Virtual timer expired",
   "Profiling timer expired","Window changed","I/O possible","Power failure",
   "Bad system call"]

def int : Signal := ⟨2⟩
def quit : Signal := ⟨3⟩
def kill : Signal := ⟨9⟩
def pipe : Signal := ⟨13⟩
def term : Signal := ⟨15⟩
def child : Signal := ⟨17⟩
def cont : Signal := ⟨18⟩

def bound : Nat := 65

/-- The first and the last of the signals that are told apart by time. -/
def firstTimed : Nat := 34
def lastTimed : Nat := 64

def name? (s : Signal) : Option String :=
  if s.number = 0 then none else names[s.number - 1]?

def ofName? (name : String) : Option Signal :=
  (names.findIdx? (· == name)).map fun i => ⟨i + 1⟩

def description (s : Signal) : String :=
  if s.number = 0 then "Unknown signal 0"
  else match descriptions[s.number - 1]? with
    | some d => d
    | none =>
      if firstTimed ≤ s.number && s.number ≤ lastTimed then
        "Real-time signal " ++ toString (s.number - firstTimed)
      else "Unknown signal " ++ toString s.number

def listed (n : Nat) : String :=
  match Signal.name? ⟨n⟩ with
  | some name => name
  | none =>
    if n = 0 then "EXIT"
    else if n = firstTimed then "RTMIN"
    else if n = lastTimed then "RTMAX"
    else if firstTimed < n && n ≤ 49 then "RTMIN+" ++ toString (n - firstTimed)
    else if 49 < n && n < lastTimed then "RTMAX-" ++ toString (lastTimed - n)
    else toString n

/-- The signal of a listed name, whose letters may be small; the numbers from the first one on are
searched. -/
def ofListed? (first : Nat) (name : String) : Option Signal :=
  ((List.range bound).find? fun n => first ≤ n && listed n == name.map Char.toUpper).map .mk

/-- The number, and the name where there is one. -/
def text (s : Signal) : String :=
  toString s.number ++ match s.name? with
    | some n => " (SIG" ++ n ++ ")"
    | none => ""

end Signal
end MatrixHarness
