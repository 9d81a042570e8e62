import MatrixHarness.Machine.Program
import MatrixHarness.Shell.Calculation

/-! # Tests

What `test` answers: comparisons of two words, questions about one, and what joins them.  Which
reading a list of words gets depends on their number. -/
namespace MatrixHarness.Shell.Test

open Machine

def unary : List String :=
  ["-r","-w","-x","-e","-f","-d","-c","-b","-p","-u","-g","-k","-s","-t","-z","-n",
   "-h","-L","-O","-G","-S"]

def binary : List String :=
  ["=","!=","<",">","-eq","-ne","-ge","-gt","-le","-lt","-nt","-ot","-ef"]

/-- What a word means where an operator may stand. -/
inductive Meaning where
  | operand
  | question
  | comparison
  | not
  | and
  | or
  | opened
  | closed
  | missing
  deriving DecidableEq

/-- What a word means as an operator, if it is one. -/
def operator? (w : List Char) : Option Meaning :=
  let s := String.ofList w
  if s ∈ unary then some .question
  else if s ∈ binary then some .comparison
  else match s with
    | "!" => some .not
    | "-a" => some .and
    | "-o" => some .or
    | "(" => some .opened
    | ")" => some .closed
    | _ => none

def meaning : List (List Char) → Meaning
  | [] => .missing
  | w :: rest =>
    match operator? w with
    | none => .operand
    | some .question =>
      match rest with
      | [] => .operand
      | [_] => .question
      | next :: _ => if operator? next = some .comparison then .operand else .question
    | some .opened => if rest.isEmpty then .operand else .opened
    | some m => m

/-- What is left of the words, the last one that was used in front; and the machine's files. -/
abbrev Reading := ReaderT Files (StateT (List (List Char)) (Except (List Char)))

def complain {α : Type} (text : String) : Reading α := fun _ _ => .error text.toList

/-- What is wrong with a word; an empty one is not shown. -/
def complaintOf (word : List Char) (text : String) : List Char :=
  if word.isEmpty then text.toList else word ++ ": ".toList ++ text.toList

def complainOf {α : Type} (word : List Char) (text : String) : Reading α := fun _ _ =>
  .error (complaintOf word text)

/-- Behind the first word; behind the last one nothing is left. -/
def advance (n : Nat) : Reading Unit := modify fun ws => ws.drop n

def front : Reading (List Char) := return (← get).headD []

def numberOf (w : List Char) : Reading Int :=
  match wholeNumber? false w with
  | some n => return n
  | none => fun _ _ => .error ("Illegal number: ".toList ++ w)

def inspect (fs : Files) (op : String) (w : List Char) : Bool :=
  let path := RawText.ofOctets w
  let file := (fs.lookUp path).toOption
  match op with
  | "-d" => file = some .directory
  | "-f" => file.any fun
    | .regular _ _ => true
    | _ => false
  | "-s" => file.any fun
    | .regular _ contents => !contents.bytes.isEmpty
    | .directory => true
    | _ => false
  | "-x" => file.any fun
    | .regular mode _ => mayExecute mode
    | .directory => true
    | _ => false
  | "-h" => (fs.look false path).toOption.any fun
    | .link _ => true
    | _ => false
  | "-L" => (fs.look false path).toOption.any fun
    | .link _ => true
    | _ => false
  | "-c" => file.any fun
    | .device _ => true
    | _ => false
  | "-k" => path == RawText.ofString "/tmp"
  | op => op ∈ ["-e","-r","-w","-O","-G"] && file.isSome

def ask (op : String) (w : List Char) : Reading Bool := do
  match op with
  | "-z" => return w.isEmpty
  | "-n" => return !w.isEmpty
  | "-t" =>
    let _ ← numberOf w
    return false
  | op => return inspect (← read) op w

def same (fs : Files) (a b : List Char) : Bool :=
  match fs.locate true (RawText.ofOctets a), fs.locate true (RawText.ofOctets b) with
  | .ok p, .ok q => p == q && (fs.find? p).isSome
  | _, _ => false

def compare (op : String) (a b : List Char) : Reading Bool := do
  let numbers (f : Int → Int → Bool) : Reading Bool := do
    let x ← numberOf a
    let y ← numberOf b
    return f x y
  match op with
  | "=" => return a == b
  | "!=" => return a != b
  | "<" => return String.ofList a < String.ofList b
  | ">" => return String.ofList b < String.ofList a
  | "-eq" => numbers fun x y => x == y
  | "-ne" => numbers fun x y => x != y
  | "-lt" => numbers fun x y => x < y
  | "-le" => numbers fun x y => x ≤ y
  | "-gt" => numbers fun x y => y < x
  | "-ge" => numbers fun x y => y ≤ x
  | "-ef" => return same (← read) a b
  | _ => return false

/-- A comparison whose first word is in front. -/
def comparison : Reading Bool := do
  let a ← front
  advance 1
  let op ← front
  match (← get).tail with
  | [] => complainOf op "argument expected"
  | b :: _ =>
    advance 1
    compare (String.ofList op) a b

mutual

/-- One of several answers; the word in front has this meaning. -/
def either : Nat → Meaning → Reading Bool
  | 0, _ => return false
  | fuel + 1, m => do
    let a ← both fuel m
    if meaning ((← get).drop 1) = .or then
      advance 2
      let b ← either fuel (meaning (← get))
      return a || b
    else return a

def both : Nat → Meaning → Reading Bool
  | 0, _ => return false
  | fuel + 1, m => do
    let a ← negation fuel m
    if meaning ((← get).drop 1) = .and then
      advance 2
      let b ← both fuel (meaning (← get))
      return a && b
    else return a

def negation : Nat → Meaning → Reading Bool
  | 0, _ => return false
  | fuel + 1, m => do
    if m = .not then
      let next := meaning ((← get).drop 1)
      if next ≠ .missing then advance 1
      return !(← negation fuel next)
    else primary fuel m

def primary : Nat → Meaning → Reading Bool
  | 0, _ => return false
  | fuel + 1, m => do
    match m with
    | .missing => return false
    | .opened =>
      advance 1
      let next := meaning (← get)
      if next = .closed then return false
      else
        let a ← either fuel next
        if meaning ((← get).drop 1) = .closed then
          advance 1
          return a
        else complain "closing paren expected"
    | .question =>
      let op ← front
      match (← get).tail with
      | [] => complainOf op "argument expected"
      | w :: _ =>
        advance 1
        ask (String.ofList op) w
    | _ =>
      if meaning ((← get).drop 1) = .comparison then comparison
      else return !(← front).isEmpty

end

/-- The answer where the words are read from the front. -/
def whole (ws : List (List Char)) (m : Meaning) (fs : Files) : Except (List Char) Bool :=
  match (either (8 * ws.length + 8) m).run fs |>.run ws with
  | .error e => .error e
  | .ok (_,used :: _ :: _) => .error (complaintOf used "unexpected operator")
  | .ok (answer,_) => .ok answer

def answer (fs : Files) : Nat → List (List Char) → Except (List Char) Bool
  | 0, _ => .ok false
  | _ + 1, [] => .ok false
  | fuel + 1, ws =>
    let three := ws.length = 3
    if three && (ws[1]?.bind operator?) = some .comparison then whole ws .operand fs
    else if (three || ws.length = 4) && ws.head? = some ['('] && ws.getLast? = some [')'] then
      let inside := (ws.drop 1).dropLast
      whole inside (meaning inside) fs
    else if (three || ws.length = 4) && ws.head? = some ['!'] then
      match answer fs fuel ws.tail with
      | .ok b => .ok !b
      | .error e => .error e
    else whole ws (meaning ws) fs

end MatrixHarness.Shell.Test
