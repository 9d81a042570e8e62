import MatrixHarness.Shell.Evaluation.Command

/-! # Starting a shell

A shell runs the script that stands behind `-c`, the script in a file, or what it reads on its
standard input. -/
namespace MatrixHarness.Shell

open Machine

def writtenPath (p : Path) : List Char :=
  '/' :: joined ['/'] (p.map RawText.octets)

/-- Reads the options a shell is started with: whether a script stands behind them, and the words
that are left. -/
def startOptions : Nat → Bool → List (List Char) → Sh (Bool × List (List Char))
  | 0, given, ws => return (given,ws)
  | _ + 1, given, [] => return (given,[])
  | fuel + 1, given, w :: ws =>
    match w with
    | ['-'] => return (given,ws)
    | ['-','-'] => return (given,ws)
    | sign :: c :: cs => do
      if sign == '-' || sign == '+' then
        let ws ← Builtin.setLetters (sign == '-') ['c','l'] (c :: cs) ws
        startOptions fuel (given || (c :: cs).contains 'c') ws
      else return (given,w :: ws)
    | w => return (given,w :: ws)

def callScript (words : List (List Char)) : Sh Unit := modify fun s =>
  match words with
  | [] => s
  | name :: arguments => { s with name := name, arguments := arguments }

def start (words : List (List Char)) : Sh Unit := do
  modify fun s => { s with line := 0 }
  let (given,ws) ← startOptions (words.length + 1) false words
  match given, ws with
  | true, [] => failWith "-c requires an argument"
  | true, script :: rest =>
    callScript rest
    runText runner { last := true } script
  | false, file :: rest =>
    if (← get).hasOption 's' then
      modify fun s => { s with arguments := ws }
      runSource runner {} { rest := ← readAll 0 longestWait, isFile := true }
    else
      match (← act .files).read (RawText.ofOctets file) with
      | .error e =>
        if e = .isADirectory then callScript (file :: rest) else fail (openComplaint .input file e)
      | .ok text =>
        callScript (file :: rest)
        runSource runner {} { rest := text.octets, isFile := true }
  | false, [] =>
    Builtin.setOption true 's'
    runSource runner {} { rest := ← readAll 0 longestWait, isFile := true }

/-- A shell that is called by these words, its own name first. -/
def program (words : List RawText) (env : Environment) : Doing Nat := do
  let self ← Doing.self
  let place := writtenPath (← Doing.files).place
  let words := words.map RawText.octets
  wholeCourse runner (start words.tail)
    { name := words.headD "sh".toList
      bindings := startVariables env self.parent place
      self := self.pid }

end MatrixHarness.Shell
