import MatrixHarness.Shell.Builtin.Options
import MatrixHarness.Shell.Job

/-! # Commands about signals

Sending signals, and what is done when they arrive. -/
namespace MatrixHarness.Shell.Builtin

open Machine

def signalNumber? (first : Nat) (w : List Char) : Option Nat :=
  match number? w with
  | some n => if n < Signal.bound then some n else none
  | none => (Signal.ofListed? first (String.ofList w)).map (·.number)

def killUsage : String :=
  "Usage: kill [-s sigspec | -signum | -sigspec] [pid | job]... or\nkill -l [exitstatus]"

def sendTo (n : Nat) (w : List Char) : Sh Nat := do
  let target : Int ← match w with
    | '%' :: _ => do pure (-(((← jobOf w).members.head?.map fun m => (m.1 : Int)).getD 0))
    | '-' :: ds => do pure (-((← natural ds) : Int))
    | ds => do pure ((← natural ds) : Int)
  match ← act (.signal target ⟨n⟩) with
  | .ok () => return 0
  | .error e =>
    complain (e.plainText.toList ++ ['\n'])
    return 1

def listSignals (words : List (List Char)) : Sh Nat := do
  match words with
  | [] =>
    say 1 ("0\n".toList ++
      (List.range (Signal.bound - 1)).flatMap fun n => (Signal.listed (n + 1)).toList ++ ['\n'])
    return 0
  | w :: _ =>
    let n ← natural w
    let n := if n > 128 then n - 128 else n
    if 0 < n && n < Signal.bound then
      say 1 ((Signal.listed n).toList ++ ['\n'])
      return 0
    else fail ("invalid signal number or exit status: ".toList ++ w)

def kill (words : List (List Char)) : Sh Nat := do
  let send (n : Nat) (targets : List (List Char)) : Sh Nat := do
    if targets.isEmpty then failWith killUsage
    else return (← targets.mapM (sendTo n)).foldl max 0
  match words with
  | [] => failWith killUsage
  | w :: rest =>
    match w with
    | '-' :: name =>
      match signalNumber? 1 name with
      | some n => send n rest
      | none =>
        let g ← given ['l'] ['s'] words
        if g.has 'l' then listSignals g.words
        else
          match g.options.find? (·.1 == 's') with
          | none => send Signal.term.number g.words
          | some o =>
            match signalNumber? 1 o.2 with
            | some n => send n g.words
            | none => fail ("invalid signal number or name: ".toList ++ o.2)
    | _ => send Signal.term.number words

/-- Tells the system what a signal does.  What was ignored when the shell started goes on being
ignored. -/
def dispose (n : Nat) (d : Disposition) : Sh Unit := do
  let s ← get
  match s.met.find? (·.1 == n) with
  | some m =>
    if !m.2 then
      let _ ← act (.dispose ⟨n⟩ d)
  | none =>
    let before ← act (.dispose ⟨n⟩ d)
    let deaf := before = .ignored
    if deaf then
      let _ ← act (.dispose ⟨n⟩ .ignored)
    modify fun s => { s with met := (n,deaf) :: s.met }

/-- What a signal is to do to the shell.  No shell ignores the ends of its children. -/
def dispositionFor (n : Nat) : Option (List Char) → Disposition
  | none => .usual
  | some [] => if n = Signal.child.number then .usual else .ignored
  | some _ => .caught

/-- Sets what is done about a signal.  The system is told of all but the end of the shell. -/
def setTrap (n : Nat) (action : Option (List Char)) : Sh Unit := do
  modify (State.setTrap n action)
  if n ≠ 0 then dispose n (dispositionFor n action)

def setTraps (action : Option (List Char)) : List (List Char) → Sh Nat
  | [] => return 0
  | w :: ws => do
    match signalNumber? 0 w with
    | none =>
      say 2 ("trap: ".toList ++ w ++ ": bad trap\n".toList)
      return 1
    | some n =>
      setTrap n action
      setTraps action ws

def trap (words : List (List Char)) : Sh Nat := do
  let g ← given [] [] words
  match g.words with
  | [] =>
    let s ← get
    say 1 ((List.range Signal.bound).flatMap fun n =>
      match s.trap? n with
      | some action =>
        "trap -- ".toList ++ singleQuote action ++ ' ' :: (Signal.listed n).toList ++ ['\n']
      | none => [])
    return 0
  | [w] => setTraps none [w]
  | w :: ws =>
    if ((number? w).filter (· < Signal.bound)).isSome then setTraps none (w :: ws)
    else setTraps (if w == ['-'] then none else some w) ws

end MatrixHarness.Shell.Builtin
