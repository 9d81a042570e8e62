import MatrixHarness.Shell.State

/-! # Options of built-in commands

Options are letters behind a dash, several in one word; a word of two dashes ends them.  An option
may take the rest of its word, or the next word, as its value. -/
namespace MatrixHarness.Shell

/-- The options that were given, each with its value, and the words behind them. -/
structure Given where
  options : List (Char × List Char) := []
  words : List (List Char)

def Given.has (g : Given) (c : Char) : Bool := g.options.any (·.1 == c)

/-- The letters of one word, and whether the last one wants the next word as its value. -/
def lettersOf (known valued : List Char) : List Char → Sh (List (Char × List Char) × Option Char)
  | [] => return ([],none)
  | c :: cs =>
    if valued.contains c then
      if cs.isEmpty then return ([],some c) else return ([(c,cs)],none)
    else if known.contains c then do
      let p ← lettersOf known valued cs
      return ((c,[]) :: p.1,p.2)
    else fail ("Illegal option -".toList ++ [c])

def given (known valued : List Char) : List (List Char) → Sh Given
  | [] => return { words := [] }
  | w :: ws =>
    match w with
    | ['-','-'] => return { words := ws }
    | '-' :: c :: cs => do
      match ← lettersOf known valued (c :: cs) with
      | (found,none) =>
        let g ← given known valued ws
        return { g with options := found ++ g.options }
      | (found,some letter) =>
        match ws with
        | [] => fail ("No arg for -".toList ++ [letter] ++ " option".toList)
        | value :: ws =>
          let g ← given known valued ws
          return { g with options := found ++ (letter,value) :: g.options }
    | w => return { words := w :: ws }

/-- A word in single quotes, so that it can be read again. -/
def singleQuote (cs : List Char) : List Char :=
  let runs := cs.splitBy fun a b => (a == '\x27') == (b == '\x27')
  let quoted (run : List Char) : List Char :=
    if run.head? == some '\x27' then '\x22' :: run ++ ['\x22'] else '\x27' :: run ++ ['\x27']
  let open' : List Char := if cs.isEmpty || cs.head? == some '\x27' then ['\x27','\x27'] else []
  open' ++ runs.flatMap quoted

/-- The name and the value of a word, if an equals sign is in it. -/
def nameAndValue (w : List Char) : List Char × Option (List Char) :=
  match w.dropWhile (· != '=') with
  | _ :: value => (w.takeWhile (· != '='),some value)
  | [] => (w,none)

end MatrixHarness.Shell
