import MatrixHarness.Number.Decimal
import MatrixHarness.Shell.Test
import MatrixHarness.Tool.Basic

/-! # Tools for processes

Each tool waits, starts a program in some other way, sends signals, or tells something about the
process that calls it. -/
namespace MatrixHarness.Tool

open Machine Shell

def unitOf? (c : Char) : Option Nat :=
  match c with
  | 's' => some 1000000000
  | 'm' => some 60000000000
  | 'h' => some 3600000000000
  | 'd' => some 86400000000000
  | _ => none

def forever : Nat := 1000000000000000000000

/-- The nanoseconds in an interval: a decimal number with the letter of a unit. -/
def interval? (cs : List Char) : Option Nat :=
  if cs == "inf".toList || cs == "infinity".toList then some forever
  else
    let (unit,number) := match cs.getLast?.bind unitOf? with
      | some u => (u,cs.dropLast)
      | none => (1000000000,cs)
    match Number.decimal? (match number with
      | '+' :: ds => ds
      | ds => ds) with
    | some ((n,e),[]) =>
      if 30 < e then some (if n = 0 then 0 else forever)
      else if e < -400 then some 0
      else some (min forever (n * unit * Nat.pow 10 e.toNat / Nat.pow 10 (-e).toNat))
    | _ => none

def sleep (c : Call) : Doing Nat := do
  if c.words.isEmpty then missingOperand c
  else
    match c.words.filter fun w => (interval? w).isNone with
    | [] =>
      Doing.sleep ((c.words.filterMap interval?).foldl (· + ·) 0)
      return succeeded
    | bad =>
      match bad.find? fun w => w.head? == some '-' && w.length > 1 with
      | some ('-' :: letter :: _) =>
        misused c failed ("invalid option -- ".toList ++ quoted [letter])
      | _ =>
        complain c (joined ("\n".toList ++ c.name ++ ": ".toList)
          (bad.map fun w => "invalid time interval ".toList ++ quoted w) ++ advice c)
        return failed

def test (c : Call) (words : List (List Char)) : Doing Nat := do
  match Test.answer (← Doing.files) (words.length + 1) words with
  | .ok answer => return if answer then 0 else 1
  | .error e =>
    complain c e
    return 2

def bracket (c : Call) : Doing Nat := do
  if c.words.getLast? == some [']'] then test c c.words.dropLast
  else
    complain c "missing ']'".toList
    return 2

/-- The codes of one that could not start a program: not at all, and not because it is missing. -/
def notStarted : Nat := 126
def notFound : Nat := 127

/-- Tries one path after another, and ends with the best reason why none can be executed. -/
def becomeAny (words : List RawText) (env : Environment) : IoError → List RawText → Doing IoError
  | e, [] => return e
  | e, path :: paths => do
    let e' ← Doing.become path words env
    if goesOn e' then becomeAny words env (if e' = .accessDenied then e' else e) paths
    else return e'

def becomeProgram (c : Call) (before : String) (env : Environment) (words : List (List Char)) :
    Doing Nat := do
  let raw := words.map RawText.ofOctets
  let name := raw.headD ⟨[]⟩
  let paths :=
    if name.bytes.contains slash || name.bytes.isEmpty then [name]
    else (searchPath env).map fun d => inDirectory d name
  let e ← becomeAny raw env .noSuchFile paths
  complain c (before.toList ++ quoted (words.headD []) ++ ": ".toList ++ e.plainText.toList)
  return if e = .noSuchFile then notFound else notStarted

/-- The complaint about a program that cannot be started, without its name. -/
def cannotRun : String := "failed to run command "

def setting? (w : List Char) : Option (String × RawText) :=
  match w.dropWhile (· != '=') with
  | _ :: value =>
    (RawText.ofOctets (w.takeWhile (· != '='))).text?.map fun n => (n,RawText.ofOctets value)
  | [] => none

def entriesText (env : Environment) (ending : Char) : List Char :=
  env.entries.flatMap fun e => (Environment.written e).octets ++ [ending]

def env (c : Call) : Doing Nat := do
  let known : Known := { flags := ['i','0','v'], valued := ['u','C','S'], ordered := true }
  let words := c.words.map fun w => if w == ['-'] then ['-','i'] else w
  match options known words with
  | .error e => misused c 125 e
  | .ok o =>
    let start : Environment := if o.has 'i' then .empty else c.environment
    let dropped := o.given.filterMap fun g => if g.1 == 'u' then some (String.ofList g.2) else none
    let start : Environment := ⟨start.entries.filter fun e => !dropped.contains e.1⟩
    let set := (o.words.takeWhile (·.contains '=')).filterMap setting?
    let final := set.foldl (fun env v => env.set v.1 v.2) start
    let words := (match o.value? 'S' with
      | some line => (line.splitOnP isSpace).filter (!·.isEmpty)
      | none => []) ++ o.words.dropWhile (·.contains '=')
    match o.value? 'C' with
    | some place =>
      let _ ← Doing.enter (RawText.ofOctets place)
    | none => pure ()
    if words.isEmpty then print c (entriesText final (if o.has '0' then '\x00' else '\n'))
    else becomeProgram c "" final words

def printenv (c : Call) : Doing Nat := do
  if c.words.isEmpty then print c (entriesText c.environment '\n')
  else
    let values := c.words.map fun w => c.environment.get? (String.ofList w)
    let _ ← print c ((values.filterMap fun v => v).flatMap fun v => v.octets ++ ['\n'])
    return if values.all Option.isSome then succeeded else failed

def signal? (w : List Char) : Option Signal :=
  match number? w with
  | some n => if n < Signal.bound then some ⟨n⟩ else none
  | none =>
    let name := (String.ofList w).map Char.toUpper
    Signal.ofListed? 0
      (if name.startsWith "SIG" then String.ofList (name.toList.drop 3) else name)

def sendAll (c : Call) (s : Signal) (targets : List (List Char)) : Doing Nat := do
  if targets.isEmpty then misused c failed "no process ID specified".toList
  else
    let statuses ← targets.mapM fun w => do
      match wholeNumber? false w with
      | none => fail c (quoted w ++ ": invalid process id".toList)
      | some n =>
        match ← Doing.signal n s with
        | .ok () => return succeeded
        | .error e => fail c ("(".toList ++ w ++ ") - ".toList ++ e.plainText.toList)
    return statuses.foldl max 0

def kill (c : Call) : Doing Nat := do
  let unknown (w : List Char) : Doing Nat :=
    fail c ("unknown signal name ".toList ++ w)
  match c.words with
  | ['-','l'] :: _ =>
    print c (spaced (Signal.names.map String.toList) ++ ['\n'])
  | ['-','s'] :: name :: targets =>
    match signal? name with
    | some s => sendAll c s targets
    | none => unknown name
  | ['-','-'] :: targets => sendAll c .term targets
  | ('-' :: name) :: targets =>
    match signal? name with
    | some s => sendAll c s targets
    | none => unknown name
  | targets => sendAll c .term targets

/-- How often one looks whether a program has ended, and how long one waits in between. -/
def glances : Nat := 100000000
def glanceTime : Nat := 1000000

def codeOf (status : WaitStatus) : Nat :=
  match status.meaning with
  | .exited code => code
  | .signaled s _ => 128 + s.number
  | _ => failed

/-- Sends a signal to a child and to the sender, which is deaf to all but one. -/
def signalGroup (pid : Nat) (s : Signal) : Doing Unit := do
  let _ ← Doing.signal pid s
  let _ ← Doing.signal pid .cont
  if s = .kill then
    let self ← Doing.self
    let _ ← Doing.signal self.pid s

/-- Waits for a child until a moment, and sends it the signals that arrive; the moment at which it
is sent a signal, and then the moment at which it is killed. -/
def attend (pid : Nat) (s : Signal) (deadline killing : Option Nat) (late preserve : Bool) :
    Nat → Doing Nat
  | 0 => return failed
  | fuel + 1 => do
    match ← Doing.wait (.child pid) false false with
    | .error _ => return failed
    | .ok (some (_,status)) =>
      return if late && !preserve then (if codeOf status = 137 then 137 else 124)
        else codeOf status
    | .ok none =>
      (← Doing.caught).forM fun t => do
        let _ ← Doing.signal pid t
      let now ← Doing.clock
      if deadline.any (· ≤ now) then
        signalGroup pid s
        attend pid s none (killing.map (now + ·)) true preserve fuel
      else if late && killing.any (· ≤ now) then
        signalGroup pid .kill
        attend pid s none none true preserve fuel
      else
        Doing.sleep glanceTime
        attend pid s deadline killing late preserve fuel

def timeout (c : Call) : Doing Nat := do
  let known : Known :=
    { flags := ['v','f','p'], valued := ['s','k'], ordered := true
      long := [("preserve-status",'p'),("foreground",'f'),("signal",'s'),
        ("kill-after",'k')] }
  match options known c.words with
  | .error e => misused c 125 e
  | .ok o =>
    match o.words with
    | time :: program :: arguments =>
      match interval? time, signal? ((o.value? 's').getD ['T','E','R','M']) with
      | none, _ => misused c 125 ("invalid time interval ".toList ++ quoted time)
      | _, none =>
        misused c 125 (quoted ((o.value? 's').getD []) ++ ": invalid signal".toList)
      | some n, some s =>
        let pid ← Doing.fork (becomeProgram c cannotRun c.environment (program :: arguments))
        let _ ← Doing.dispose .term .caught
        let _ ← Doing.dispose .int .caught
        let now ← Doing.clock
        attend pid s (if n = 0 then none else some (now + n))
          ((o.value? 'k').bind interval?) false (o.has 'p') glances
    | _ =>
      let _ ← Doing.write 2 (RawText.ofOctets ((advice c).tail ++ ['\n']))
      return 125

def becomeRest (c : Call) (before : String) (valued : List Char) : Doing Nat := do
  match options { flags := ['w','f','c'], valued := valued, ordered := true } c.words with
  | .error e => misused c 125 e
  | .ok o =>
    if o.words.isEmpty then misused c 125 "missing operand".toList
    else becomeProgram c before c.environment o.words

def nohup (c : Call) : Doing Nat := do
  let _ ← Doing.dispose ⟨1⟩ .ignored
  becomeRest c cannotRun []

def setsid (c : Call) : Doing Nat := becomeRest c "failed to execute " []

def nice (c : Call) : Doing Nat := do
  if c.words.isEmpty then print c "0\n".toList else becomeRest c "" ['n']

def id (c : Call) : Doing Nat := do
  let letters := c.words.flatten
  if letters.contains 'n' then print c "root\n".toList
  else if c.words.isEmpty then print c "uid=0(root) gid=0(root) groups=0(root)\n".toList
  else print c "0\n".toList

def whoami (c : Call) : Doing Nat := print c "root\n".toList

def uname (c : Call) : Doing Nat := do
  let letters := c.words.flatten
  if c.words.isEmpty || letters.contains 's' then print c "Linux\n".toList
  else if letters.contains 'm' then print c "x86_64\n".toList
  else if letters.contains 'n' then print c "localhost\n".toList
  else print c "Linux localhost x86_64 GNU/Linux\n".toList

/-- Tells the time in seconds or parts of them since the machine was started. -/
def date (c : Call) : Doing Nat := do
  let now ← Doing.clock
  let form := match c.words.find? (·.head? == some '+') with
    | some w => w.tail
    | none => ['%','s']
  let rec fill : List Char → List Char
    | '%' :: 's' :: r => digits (now / 1000000000) ++ fill r
    | '%' :: 'N' :: r =>
      let ds := digits (now % 1000000000)
      List.replicate (9 - ds.length) '0' ++ ds ++ fill r
    | '%' :: '%' :: r => '%' :: fill r
    | c :: r => c :: fill r
    | [] => []
  print c (fill form ++ ['\n'])

def which (c : Call) : Doing Nat := do
  let fs ← Doing.files
  let found := c.words.map fun w =>
    let name := RawText.ofOctets w
    let paths := if name.bytes.contains slash then [name]
      else (searchPath c.environment).map fun d => inDirectory d name
    paths.find? fun p => match fs.lookUp p with
      | .ok (.regular mode _) => mayExecute mode
      | _ => false
  let _ ← print c ((found.filterMap fun f => f).flatMap fun p => p.octets ++ ['\n'])
  return if found.all Option.isSome then succeeded else failed

end MatrixHarness.Tool
