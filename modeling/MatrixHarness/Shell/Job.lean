import MatrixHarness.Shell.State

/-! # Jobs

The children of a shell: what is told of their ends, and how the shell waits for them.  Those that
were started together in the background are a job with a number. -/
namespace MatrixHarness.Shell

open Machine

def statusOf (s : WaitStatus) : Nat :=
  match s.meaning with
  | .exited code => code
  | .signaled signal _ => 128 + signal.number
  | .stopped signal => 128 + signal.number
  | _ => 0

def deathNotice (s : WaitStatus) : List Char :=
  match s.meaning with
  | .signaled signal dumped =>
    if signal = .int || signal = .pipe then []
    else signal.description.toList ++ (if dumped then " (core dumped)".toList else []) ++ ['\n']
  | _ => []

def Job.note (pid : Nat) (status : WaitStatus) (j : Job) : Job :=
  { j with members := j.members.map fun m => if m.1 == pid then (m.1,some status) else m }

def Job.has (pid : Nat) (j : Job) : Bool := j.members.any (·.1 == pid)

def Job.ended (j : Job) : Bool := j.members.all (·.2.isSome)

def Job.status (j : Job) : Nat :=
  match j.members.getLast? with
  | some (_,some status) => statusOf status
  | _ => 0

def noteEnd (pid : Nat) (status : WaitStatus) : Sh Unit := modify fun s =>
  { s with jobs := s.jobs.map (Job.note pid status) }

/-- How often a shell hears of the end of a child while it waits. -/
def longestWait : Nat := 1000000

def awaitJob : Nat → Job → Sh Job
  | 0, j => return j
  | fuel + 1, j => do
    if j.ended then return j
    else
      match ← act (.wait .any true false) with
      | .ok (some (pid,status)) =>
        if j.has pid then
          let notice := deathNotice status
          if !notice.isEmpty then say 2 notice
          awaitJob fuel (j.note pid status)
        else
          noteEnd pid status
          awaitJob fuel j
      | _ => return j

/-- Waits for children in the foreground; the status is that of the last one. -/
def awaitAll (pids : List Nat) : Sh Nat := do
  return (← awaitJob longestWait { members := pids.map fun p => (p,none) }).status

/-- Notes the signals that have arrived, and tells the last one. -/
def noteSignals : Sh (Option Signal) := do
  let signals ← act .caught
  modify fun s => { s with arrived := s.arrived ++ signals.filter (· ∉ s.arrived) }
  return signals.getLast?

/-- Waits until a job in the background has ended, or all have, or a signal arrives that is handled,
which is told. -/
def awaitBackground (number? : Option Nat) : Nat → Sh (Option Signal)
  | 0 => return none
  | fuel + 1 => do
    let s ← get
    let isMine (j : Job) : Bool := number?.all (j.number == ·)
    let mine := s.jobs.filter isMine
    if mine.all Job.ended then
      let heard (j : Job) : Job := { j with waited := j.waited || isMine j }
      modify fun s => { s with jobs := s.jobs.map heard }
      return none
    else
      match ← act (.wait .any true true) with
      | .ok (some (pid,status)) =>
        let notice := deathNotice status
        if number?.isSome && mine.any (·.has pid) && !notice.isEmpty then say 2 notice
        noteEnd pid status
        awaitBackground number? fuel
      | _ => noteSignals

/-- Notes which children have ended, without waiting. -/
def noteEnds : Nat → Sh Unit
  | 0 => return
  | fuel + 1 => do
    match ← act (.wait .any false false) with
    | .ok (some (pid,status)) =>
      noteEnd pid status
      noteEnds fuel
    | _ => return

/-- A job whose end was told is forgotten when its number is wanted again. -/
def Job.isSpent (j : Job) : Bool := j.ended && j.waited

/-- Adds a job under the first number that is free. -/
def addJob (pids : List Nat) : Sh Unit := modify fun s =>
  let numbers := (List.range (s.jobs.length + 1)).map (· + 1)
  let used (n : Nat) : Bool := s.jobs.any fun j => j.number == n && !j.isSpent
  let number := (numbers.find? (!used ·)).getD 1
  let job : Job := { number := number, members := pids.map fun p => (p,none) }
  { s with jobs := job :: s.jobs.filter (·.number != number) }

/-- The job that a word names: the current one, the one before it, or one by its number. -/
def jobOf (w : List Char) : Sh Job := do
  let jobs := (← get).jobs
  let found (j? : Option Job) (complaint : List Char) : Sh Job :=
    match j? with
    | some j => return j
    | none => fail complaint
  let none' := "No such job: ".toList ++ w
  match w with
  | ['%'] => found jobs.head? "No current job".toList
  | ['%','%'] => found jobs.head? "No current job".toList
  | ['%','+'] => found jobs.head? "No current job".toList
  | ['%','-'] => found (jobs.drop 1).head? "No previous job".toList
  | '%' :: ds => found (jobs.find? fun j => number? ds == some j.number) none'
  | _ => fail none'

def Job.stateText (j : Job) : List Char :=
  if !j.ended then "Running".toList
  else
    match j.members.getLast?.bind (·.2) with
    | none => "Done".toList
    | some status =>
      match status.meaning with
      | .signaled s dumped =>
        s.description.toList ++ if dumped then " (core dumped)".toList else []
      | .exited 0 => "Done".toList
      | .exited code => "Done(".toList ++ digits code ++ [')']
      | _ => "Done".toList

/-- The width of a line about a job, without the command. -/
def jobWidth : Nat := 33

/-- A line about a job; the mark tells which one is current. -/
def Job.shown (mark : Char) (withPid : Bool) (j : Job) : List Char :=
  let pid := if withPid then ((j.members.head?.map fun m => digits m.1 ++ [' ']).getD []) else []
  let text := '[' :: digits j.number ++ [']',' ',mark,' '] ++ pid ++ j.stateText
  text ++ List.replicate (max 1 (jobWidth - text.length)) ' ' ++
    (List.replicate (j.members.length - 1) " | ".toList).flatten ++ ['\n']

end MatrixHarness.Shell
