import MatrixHarness.Shell.Calculation
import MatrixHarness.Tool.Basic
import MatrixHarness.Tool.Expression.Reader

/-! # Calculating with words

The tool `expr`: operators and operands are words of their own, and values are texts that may be
whole numbers. -/
namespace MatrixHarness.Tool

open Machine Shell

namespace Words

/-- What is wrong, and whether the last word of all is told behind it. -/
structure Complaint where
  text : List Char
  afterLast : Bool := false

abbrev Reading := StateT (List (List Char)) (Except Complaint)

def complaint {α : Type} (text : String) : Reading α := fun _ => .error { text := text.toList }

def tooFew {α : Type} (text : String) : Reading α := fun _ =>
  .error { text := text.toList ++ " after ".toList, afterLast := true }

def missing {α : Type} : Reading α := tooFew "syntax error: missing argument"

/-- The operators, those that bind least first. -/
def levels : List (List String) :=
  [["|"],["&"],["<","<=","=","==","!=",">=",">"],["+","-"],["*","/","%"],[":"]]

def isNothing (v : List Char) : Bool := v.isEmpty || wholeNumber? false v == some 0

def truth (b : Bool) : List Char := if b then ['1'] else ['0']

def number (v : List Char) : Reading Int :=
  match wholeNumber? false v with
  | some n => return n
  | none => complaint "non-integer argument"

/-- The front of a text that fits an expression: what its first group has fitted, or else how many
characters there are. -/
def fitting (text expression : List Char) : Reading (List Char) :=
  match Expression.read false expression with
  | .error e => complaint e
  | .ok e =>
    return match e.longest? { rest := text } with
      | some s =>
        if e.hasGroup then (s.group? 1).getD [] else digits (text.length - s.rest.length)
      | none => if e.hasGroup then [] else ['0']

/-- The place of the first character of a text that is in a set, from one on; nought if none is. -/
def place (text set : List Char) : List Char :=
  let before := text.takeWhile (!set.contains ·)
  digits (if before.length = text.length then 0 else before.length + 1)

def part (text start length : List Char) : List Char :=
  match wholeNumber? false start, wholeNumber? false length with
  | some s, some n => if 0 < s && 0 < n then (text.drop (s.toNat - 1)).take n.toNat else []
  | _, _ => []

def apply (o : String) (a b : List Char) : Reading (List Char) := do
  let compared (p : Int → Int → Bool) (q : String → String → Bool) : List Char :=
    match wholeNumber? false a, wholeNumber? false b with
    | some x, some y => truth (p x y)
    | _, _ => truth (q (String.ofList a) (String.ofList b))
  match o with
  | "|" => return if isNothing a then (if isNothing b then ['0'] else b) else a
  | "&" => return if isNothing a || isNothing b then ['0'] else a
  | "<" => return compared (fun x y => decide (x < y)) (fun x y => decide (x < y))
  | "<=" => return compared (fun x y => decide (x ≤ y)) (fun x y => decide (x ≤ y))
  | ">" => return compared (fun x y => decide (y < x)) (fun x y => decide (y < x))
  | ">=" => return compared (fun x y => decide (y ≤ x)) (fun x y => decide (y ≤ x))
  | "!=" => return compared (· != ·) (· != ·)
  | "+" => return integerText ((← number a) + (← number b))
  | "-" => return integerText ((← number a) - (← number b))
  | "*" => return integerText ((← number a) * (← number b))
  | ":" => fitting a b
  | _ =>
    if o = "/" || o = "%" then
      let x ← number a
      let y ← number b
      if y = 0 then complaint "division by zero"
      else return integerText (if o = "/" then x.tdiv y else x.tmod y)
    else return compared (· == ·) (· == ·)

mutual

def value : Nat → List (List String) → Reading (List Char)
  | 0, _ => complaint "syntax error"
  | fuel + 1, [] => operand fuel
  | fuel + 1, level :: rest => do valueOn fuel level rest (← value fuel rest)

def valueOn : Nat → List String → List (List String) → List Char → Reading (List Char)
  | 0, _, _, _ => complaint "syntax error"
  | fuel + 1, level, rest, a => do
    match ← get with
    | [] => return a
    | w :: ws =>
      let o := String.ofList w
      if o ∈ level then
        set ws
        let b ← value fuel rest
        valueOn fuel level rest (← apply o a b)
      else return a

/-- A word that takes those behind it as its operands, or an operand itself. -/
def operand : Nat → Reading (List Char)
  | 0 => complaint "syntax error"
  | fuel + 1 => do
    match ← get with
    | [] => missing
    | w :: ws =>
      set ws
      match String.ofList w with
      | "+" =>
        match ws with
        | [] => missing
        | v :: ws =>
          set ws
          return v
      | "length" => return digits (← operand fuel).length
      | "match" => fitting (← operand fuel) (← operand fuel)
      | "index" => return place (← operand fuel) (← operand fuel)
      | "substr" => return part (← operand fuel) (← operand fuel) (← operand fuel)
      | "(" =>
        let a ← value fuel levels
        match ← get with
        | [')'] :: ws =>
          set ws
          return a
        | [] => tooFew "syntax error: expecting ')'"
        | v :: _ =>
          complaint ("syntax error: expecting ')' instead of " ++ String.ofList (quoted v))
      | ")" => complaint "syntax error: unexpected ')'"
      | _ => return w

end

end Words

def expr (c : Call) : Doing Nat := do
  let words := match c.words with
    | ['-','-'] :: ws => ws
    | ws => ws
  if words.isEmpty then misused c 2 "missing operand".toList
  else
    match (Words.value (16 * words.length + 16) Words.levels).run words with
    | .error e =>
      complain c (e.text ++ if e.afterLast then quoted (words.getLast?.getD []) else [])
      return 2
    | .ok (_,extra :: _) =>
      complain c ("syntax error: unexpected argument ".toList ++ quoted extra)
      return 2
    | .ok (v,[]) =>
      let _ ← print c (v ++ ['\n'])
      return if Words.isNothing v then 1 else 0

end MatrixHarness.Tool
