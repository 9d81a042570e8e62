import MatrixHarness.Shell.Script

/-! # The source of a script

What is left of a script while it is read, with the number of the line and the words that stand for
others.  Every reader takes what it needs from the front or tells what is wrong. -/
namespace MatrixHarness.Shell

/-- What is done with the word behind a redirection. -/
inductive Arrow where
  | file (opening : Opening)
  | duplicate
  /-- The text stands on the next lines; tabs before them count for nothing if the flag is set. -/
  | text (strips : Bool)
  deriving DecidableEq

inductive Token where
  | word (w : Word)
  | keyword (k : String)
  | operator (o : String)
  | redirect (descriptor : Nat) (arrow : Arrow)
  | lineEnd
  | scriptEnd

structure Source where
  rest : List Char
  /-- The script is read from a file. -/
  isFile : Bool := false
  line : Nat := 1
  /-- Lines that were taken out before the reader comes to them. -/
  taken : Nat := 0
  /-- In a text on lines of its own: how many lines below it tell its end. -/
  below : Option Nat := none
  /-- The mark of such a text is read, in which dollars begin nothing. -/
  inMark : Bool := false
  /-- A token that was looked at. -/
  kept : Option Token := none
  aliases : List (List Char × List Char) := []
  /-- The words that are being replaced, each with how much was left behind it. -/
  replaced : List (List Char × Nat) := []

abbrev Reading := StateT Source (Except Misread)

namespace Reading

def fail {α : Type} (text : String) : Reading α := fun s => .error ⟨s.line,text.toList⟩

/-- Behind a line end that a backslash takes away, and how many lines that are. -/
def behindJoins : List Char → Nat × List Char
  | '\\' :: '\n' :: r => ((behindJoins r).1 + 1,(behindJoins r).2)
  | r => (0,r)

def skipJoins : Reading Unit := modify fun s =>
  { s with rest := (behindJoins s.rest).2, line := s.line + (behindJoins s.rest).1 }

def peek : Reading (Option Char) := return (← get).rest.head?

def peekTwo : Reading (List Char) := return (← get).rest.take 2

def skip : Reading Unit := modify fun s =>
  match s.rest with
  | '\n' :: r => { s with rest := r, line := s.line + 1 + s.taken, taken := 0 }
  | _ :: r => { s with rest := r }
  | [] => s

def takeWhile (p : Char → Bool) : Reading (List Char) := do
  let s ← get
  let run := s.rest.takeWhile p
  set { s with rest := s.rest.dropWhile p, line := s.line + run.count '\n' }
  return run

/-- The characters of a kind at the front of a text, past line ends that are taken away; what is
behind them; and how many line ends that were. -/
def joinedRun (p : Char → Bool) : List Char → List Char × List Char × Nat
  | '\\' :: '\n' :: r =>
    let (run,rest,lines) := joinedRun p r
    (run,rest,lines + 1)
  | c :: r =>
    if p c then
      let (run,rest,lines) := joinedRun p r
      (c :: run,rest,lines)
    else ([],c :: r,0)
  | [] => ([],[],0)

/-- Takes the characters of a kind, past line ends that are taken away. -/
def takeJoined (p : Char → Bool) : Reading (List Char) := do
  let s ← get
  let (run,rest,lines) := joinedRun p s.rest
  set { s with rest := rest, line := s.line + lines }
  return run

/-- Takes the next characters if they are these. -/
def skipIf (cs : List Char) : Reading Bool := do
  skipJoins
  let s ← get
  if cs.isPrefixOf s.rest then
    set { s with rest := s.rest.drop cs.length }
    return true
  else return false

def within {α : Type} (text : List Char) (m : Reading α) : Reading α := do
  let s ← get
  set { s with rest := text, taken := 0, below := none, kept := none }
  let a ← m
  set s
  return a

def back (t : Token) : Reading Unit := modify fun s => { s with kept := some t }

end Reading

def plain? : Word → Option (List Char)
  | [] => some []
  | .text false cs :: w => (plain? w).map (cs ++ ·)
  | _ => none

/-- The characters of a word that holds no dollars. -/
def bareText (w : Word) : List Char :=
  w.flatMap fun
    | .text _ cs => cs
    | _ => []

def hasQuotes (w : Word) : Bool :=
  w.any fun
    | .text quoted _ => quoted
    | _ => false

def keywords : List String :=
  ["!","case","do","done","elif","else","esac","fi","for","if","in","then","until",
   "while","\x7b","\x7d"]

def quotedName (name : String) : String := "\x22" ++ name ++ "\x22"

def Token.shown : Token → String
  | word _ => "word"
  | keyword k => quotedName k
  | operator o => quotedName o
  | redirect _ _ => "redirection"
  | lineEnd => "newline"
  | scriptEnd => "end of file"

namespace Reading

def unexpected {α : Type} (t : Token) : Reading α :=
  fail ("Syntax error: " ++ t.shown ++ " unexpected")

def expected {α : Type} (wanted : String) (t : Token) : Reading α :=
  fail ("Syntax error: " ++ t.shown ++ " unexpected (expecting " ++ wanted ++ ")")

def tooDeep {α : Type} : Reading α := fail "Syntax error: nested too deeply"

end Reading
end MatrixHarness.Shell
