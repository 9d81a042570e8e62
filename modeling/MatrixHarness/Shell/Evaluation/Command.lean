import MatrixHarness.Shell.Evaluation.Builtin

/-! # Running commands

What the commands of a script do.  Each form of command is run in terms of a runner of the commands
inside it; the runner of all commands closes the circle with an allowance that no script uses up. -/
namespace MatrixHarness.Shell

open Machine

/-- What the first word of a command stands for. -/
inductive Meant where
  | special (command : List (List Char) → Sh Nat)
  | function (body : Command)
  | regular (command : List (List Char) → Sh Nat)
  | program

def meant (self : Runner) (mode : Mode) (functions : Bool) (name : List Char) : Sh Meant := do
  let s ← get
  let text := String.ofList name
  if name.contains '/' then return .program
  else
    let own := builtin? self mode text
    let function := if functions then s.functions.find? (·.1 == name) else none
    match own, function with
    | some c, some f => return if text ∈ specialNames then .special c else .function f.2
    | some c, none => return if text ∈ specialNames then .special c else .regular c
    | none, some f => return .function f.2
    | none, none => return .program

def runFound (self : Runner) (mode : Mode) (words : List (List Char)) : Sh Unit := do
  let name := words.headD []
  let s ← get
  let there ← if name.contains '/' then pure (.ok name)
    else do pure (findCommand (← act .files) s name)
  match there with
  | .ok _ =>
    noteFound name
    runProgram self mode words
  | .error e =>
    complain (commandComplaint name e)
    setStatus 127

/-- The words behind `command` and its options; none if they only ask for what a name stands for. -/
def behindCommand : List (List Char) → Option (List (List Char))
  | [] => none
  | w :: ws =>
    match w with
    | ['-','-'] => if ws.isEmpty then none else some ws
    | '-' :: c :: cs => if (c :: cs).all (· == 'p') then behindCommand ws else none
    | w => some (w :: ws)

/-- The words that name a command, and whether they stand behind `command`. -/
def called (functions : List (List Char × Command)) :
    Nat → Bool → List (List Char) → Bool × List (List Char)
  | 0, behind, ws => (behind,ws)
  | fuel + 1, behind, ws =>
    match ws with
    | name :: rest =>
      if name == "command".toList && (behind || functions.all (·.1 != name)) then
        match behindCommand rest with
        | some ws => called functions fuel true ws
        | none => (behind,ws)
      else (behind,ws)
    | [] => (behind,[])

/-- Runs the words of a command.  Behind `command` functions do not count, and special commands are
like any other. -/
def runWords (self : Runner) (mode : Mode) (behind : Bool) (words : List (List Char)) :
    Sh Unit := do
  match words with
  | [] => pure ()
  | name :: rest =>
    match ← meant self mode (!behind) name with
    | .special c => runBuiltin (!behind) name c rest
    | .function body => callFunction self mode body rest
    | .regular c => runBuiltin false name c rest
    | .program => runFound self mode words

def giveValues (self : Runner) (exported : Bool) (assignments : List (List Char × Word)) :
    Sh (List (List Char × List Char)) :=
  assignments.mapM fun a => do
    let value ← assignedText (outputOf self) a.2
    assign a.1 value
    if exported then
      modify fun s => match s.named? a.1 with
        | some v => s.put { v with exported := true }
        | none => s
    return (a.1,value)

def restore (before : List (List Char × Option Variable)) : Sh Unit := modify fun s =>
  before.foldl State.putBack s

/-- The words of a simple command; behind a command that sets variables, assignments are not
split. -/
def wordsOfCommand (self : Runner) (words : List Word) : Sh (List (List Char)) := do
  match words with
  | [] => return []
  | first :: rest =>
    let names ← expandWord (outputOf self) first
    let sets := (plain? first).any fun n =>
      ["export","readonly","local"].contains (String.ofList n)
    let others ← rest.mapM fun w => do
      match if sets then assignment? w else none with
      | some a => do
        let value ← assignedText (outputOf self) a.2
        pure [a.1 ++ '=' :: value]
      | none => expandWord (outputOf self) w
    return names ++ others.flatten

/-- Shows a command before it is run, if that is wanted. -/
def trace (assignments : List (List Char × List Char)) (words : List (List Char)) : Sh Unit := do
  let s ← get
  if s.hasOption 'x' then
    let before := (s.value? "PS4".toList).getD []
    say 2 (before ++ spaced (assignments.map (fun a => a.1 ++ '=' :: a.2) ++ words) ++ ['\n'])

def runSimple (self : Runner) (mode : Mode) (assignments : List (List Char × Word))
    (words : List Word) (redirects : List Redirect) : Sh Unit := do
  modify fun s => { s with inner := none }
  let words ← wordsOfCommand self words
  let (behind,ws) := called (← get).functions (words.length + 1) false words
  let isSpecial (n : List Char) : Bool := specialNames.contains (String.ofList n)
  let special := !behind && ws.head?.any isSpecial
  let routes ← redirects.mapM (route (outputOf self))
  match ← attempt (followAll routes []) with
  | .error .fail => if special then throw .fail
  | .error f => throw f
  | .ok kept =>
    let lasting := words.isEmpty || special
    let s ← get
    let before := if lasting then [] else assignments.map fun a => (a.1,s.named? a.1)
    let values ← giveValues self (!lasting) assignments
    trace values words
    let r ← attempt do
      if words.isEmpty then
        let s ← get
        setStatus (s.inner.getD 0)
      else runWords self mode behind ws
    restore before
    if ws.head? == some "exec".toList then letGo kept else putBack kept
    conclude r

/-- The end of a round of a loop: whether to go on with the next one. -/
def round (m : Sh Unit) : Sh Bool := do
  match ← attempt m with
  | .ok () => return true
  | .error (.leave again n) =>
    if n > 1 then throw (.leave again (n - 1)) else return again
  | .error f => throw f

def inLoop (m : Sh Unit) : Sh Unit := do
  modify fun s => { s with loops := s.loops + 1 }
  let r ← attempt m
  modify fun s => { s with loops := s.loops - 1 }
  conclude r

def longestLoop : Nat := 1000000000000

/-- The rounds of a loop; the status is that of the last body. -/
def rounds (self : Runner) (tested wanted : Bool) (condition body : Command) : Nat → Nat → Sh Unit
  | 0, status => setStatus status
  | fuel + 1, status => do
    let held ← attempt do
      self { tested := true } condition
      return ((← get).status == 0) == wanted
    match held with
    | .ok false => setStatus status
    | .ok true =>
      if ← round (self { tested := tested } body) then
        rounds self tested wanted condition body fuel (← get).status
    | .error f =>
      if ← round (throw f) then rounds self tested wanted condition body fuel status

def roundsOver (self : Runner) (tested : Bool) (name : List Char) (body : Command) :
    List (List Char) → Sh Unit
  | [] => pure ()
  | w :: ws => do
    assign name w
    if ← round (self { tested := tested } body) then roundsOver self tested name body ws

def chosenArm (self : Runner) (text : List Char) : List (List Word × Command) → Sh (Option Command)
  | [] => return none
  | (patterns,body) :: arms => do
    let rec anyFits : List Word → Sh Bool
      | [] => return false
      | w :: ws => do
        let p ← patternOf (outputOf self) w
        if p.fits text then return true else anyFits ws
    if ← anyFits patterns then return some body else chosenArm self text arms

/-- Starts the stages of a pipeline, each reading what the one before prints. -/
def startStages (self : Runner) : Option Nat → List Command → Sh (List Nat)
  | _, [] => return []
  | input, c :: cs => do
    let ends ← if cs.isEmpty then pure none else do pure (some (← act .pipe))
    let pid ← fork self do
      match ends with
      | some e => act (.close e.1)
      | none => pure ()
      match input with
      | some n => lead n 0
      | none => pure ()
      match ends with
      | some e => lead e.2 1
      | none => pure ()
      self { last := true } c
    match input with
    | some n => act (.close n)
    | none => pure ()
    match ends with
    | some e => act (.close e.2)
    | none => pure ()
    return pid :: (← startStages self (ends.map (·.1)) cs)

/-- What a child in the background does before its command. -/
def enterBackground : Sh Unit := do
  Builtin.dispose Signal.int.number .ignored
  Builtin.dispose Signal.quit.number .ignored
  match ← act (.openFile (RawText.ofString "/dev/null") { reads := true }) with
  | .ok n => lead n 0
  | .error _ => pure ()

def runBackground (self : Runner) (c : Command) : Sh Unit := do
  let pids ← match c with
    | .pipeline stages => do
      match ← act (.openFile (RawText.ofString "/dev/null") { reads := true }) with
      | .ok n => startStages self (some n) stages
      | .error _ => startStages self none stages
    | c => do
      let pid ← fork self do
        enterBackground
        self { last := true } c
      pure [pid]
  addJob pids
  modify fun s => { s with background := pids.getLast?, status := 0 }

def redirected (self : Runner) (redirects : List Redirect) (m : Sh Unit) : Sh Unit := do
  let routes ← redirects.mapM (route (outputOf self))
  match ← attempt (followAll routes []) with
  | .error .fail => pure ()
  | .error f => throw f
  | .ok kept =>
    let r ← attempt m
    putBack kept
    conclude r

/-- A command that fails ends the shell if that is wanted. -/
def checkStatus (mode : Mode) : Sh Unit := do
  let s ← get
  if s.hasOption 'e' && !mode.tested && s.status ≠ 0 then throw .exit

def atLine (line : Nat) : Sh Unit := modify fun s => { s with line := line }

/-- Runs one command in terms of a runner of those inside it. -/
def runCommand (self : Runner) (mode : Mode) (c : Command) : Sh Unit := do
  if (← get).hasOption 'n' then return
  match c with
  | .nothing => pure ()
  | .simple line assignments words redirects =>
    runTraps self
    atLine line
    runSimple self mode assignments words redirects
    runTraps self
    checkStatus mode
  | .pipeline stages =>
    setStatus (← awaitAll (← startStages self none stages))
    runTraps self
    checkStatus mode
  | .background line c =>
    atLine line
    runBackground self c
  | .sequence a b =>
    self { mode with last := false } a
    self mode b
  | .chain wanted a b =>
    self { tested := true } a
    if ((← get).status == 0) == wanted then self mode b
  | .negate c =>
    self { tested := true } c
    setStatus (if (← get).status == 0 then 1 else 0)
  | .choose condition yes no =>
    self { tested := true } condition
    if (← get).status == 0 then self mode yes
    else
      setStatus 0
      self mode no
  | .loop wanted condition body =>
    inLoop (rounds self mode.tested wanted condition body longestLoop 0)
  | .each line name words body =>
    atLine line
    let words ← match words with
      | some ws => do pure (← ws.mapM (expandWord (outputOf self))).flatten
      | none => do pure (← get).arguments
    setStatus 0
    inLoop (roundsOver self mode.tested name body words)
  | .select line subject arms =>
    atLine line
    let text ← wholeText (outputOf self) subject
    match ← chosenArm self text arms with
    | some body =>
      setStatus 0
      self mode body
    | none => setStatus 0
  | .subshell line c redirects =>
    atLine line
    let inside := redirected self redirects (self { last := true } c)
    if mode.last && (← get).isTrapless then inside
    else
      setStatus (← awaitAll [← fork self inside])
      runTraps self
      checkStatus mode
  | .redirected line c redirects =>
    atLine line
    redirected self redirects (self { tested := mode.tested } c)
  | .define _ name body =>
    modify fun s => { s with functions := (name,body) :: s.functions.filter (·.1 != name) }
    setStatus 0

def deepestCommand : Nat := 1000000

def run : Nat → Runner
  | 0 => fun _ _ => failWith "nested too deeply"
  | deep + 1 => runCommand (run deep)

def runner : Runner := run deepestCommand

end MatrixHarness.Shell
