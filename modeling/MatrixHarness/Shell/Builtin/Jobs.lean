import MatrixHarness.Shell.Builtin.Options
import MatrixHarness.Shell.Job

/-! # Commands about jobs

Waiting for what runs in the background, and telling of it. -/
namespace MatrixHarness.Shell.Builtin

def cutShort (s : Signal) : Nat := 128 + s.number

/-- Waits for some jobs; the status is that of the last one that is known. -/
def waitEach : List (List Char) → Nat → Sh Nat
  | [], status => return status
  | w :: ws, status => do
    let job? ← match w with
      | '%' :: _ => do pure (some (← jobOf w))
      | w => do
        let pid ← natural w
        pure ((← get).jobs.find? fun j => j.members.getLast?.any (·.1 == pid))
    match job? with
    | none => waitEach ws status
    | some j =>
      match ← awaitBackground (some j.number) longestWait with
      | some s => return cutShort s
      | none =>
        let ended := (← get).jobs.find? (·.number == j.number)
        waitEach ws ((ended.map Job.status).getD status)

def wait (words : List (List Char)) : Sh Nat := do
  let g ← given [] [] words
  if g.words.isEmpty then
    return ((← awaitBackground none longestWait).map cutShort).getD 0
  else waitEach g.words 127

/-- Tells of one job; one that has ended is forgotten. -/
def showJob (letters : Given) (mark : Char) (j : Job) : Sh Unit := do
  if letters.has 'p' then
    say 1 ((j.members.head?.map fun m => digits m.1).getD [] ++ ['\n'])
  else say 1 (j.shown mark (letters.has 'l'))
  if j.ended then modify fun s => { s with jobs := s.jobs.filter (·.number != j.number) }

def jobs (words : List (List Char)) : Sh Nat := do
  let g ← given ['l','p'] [] words
  let markOf (j : Job) : Sh Char := do
    let numbers := (← get).jobs.map (·.number)
    return if numbers.head? == some j.number then '+'
      else if (numbers.drop 1).head? == some j.number then '-' else ' '
  if g.words.isEmpty then
    noteEnds longestWait
    (← get).jobs.forM fun j => do showJob g (← markOf j) j
  else
    g.words.forM fun w => do
      let j ← jobOf w
      showJob g (← markOf j) j
  return 0

/-- No job of a script can be moved between foreground and background. -/
def moveJob (words : List (List Char)) : Sh Nat := do
  let w := words.headD ['%']
  let _ ← jobOf w
  let shown := if words.isEmpty then "(null)".toList else w
  fail ("job ".toList ++ shown ++ " not created under job control".toList)

end MatrixHarness.Shell.Builtin
