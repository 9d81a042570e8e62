import MatrixHarness.Shell.Format
import MatrixHarness.Tool.Basic

/-! # Parts of lines

The tool `cut`: fields or characters of each line, chosen by a list of numbers and intervals. -/
namespace MatrixHarness.Tool

open Machine Shell

namespace Field

def parts (c : Char) : Bool := c == ',' || c == ' ' || c == '\t'

/-- What is wrong with a list. -/
inductive Misfit where
  | zero
  | value (rest : List Char)
  | range
  | bare
  | decreasing

def Misfit.text (fields : Bool) : Misfit → List Char
  | zero =>
    ((if fields then "fields" else "byte/character positions") ++ " are numbered from 1").toList
  | value rest =>
    ("invalid " ++ if fields then "field value " else "byte/character position ").toList ++
      quoted rest
  | range => ("invalid " ++ if fields then "field range" else "byte or character range").toList
  | bare => "invalid range with no endpoint: -".toList
  | decreasing => "invalid decreasing range".toList

/-- An entry of a list as an interval; a missing end leaves it open.  A complaint shows the list
from the character that is wrong, so what stands behind the entry counts. -/
def interval (entry behind : List Char) : Except Misfit (Nat × Option Nat) :=
  let first := entry.takeWhile Char.isDigit
  let n := (number? first).getD 0
  match entry.dropWhile Char.isDigit with
  | [] => if n = 0 then .error .zero else .ok (n,some n)
  | '-' :: r =>
    if !first.isEmpty && n = 0 then .error .zero
    else
      let start := if first.isEmpty then 1 else n
      let last := r.takeWhile Char.isDigit
      match r.dropWhile Char.isDigit, number? last with
      | '-' :: _, _ => .error .range
      | c :: cs, _ => .error (.value (c :: cs ++ behind))
      | [], some m => if m < start then .error .decreasing else .ok (start,some m)
      | [], none => if first.isEmpty then .error .bare else .ok (start,none)
  | rest => .error (.value (rest ++ behind))

def intervals : Nat → List Char → Except Misfit (List (Nat × Option Nat))
  | 0, _ => .ok []
  | fuel + 1, list => do
    let behind := list.dropWhile (!parts ·)
    let i ← interval (list.takeWhile (!parts ·)) behind
    match behind with
    | [] => return [i]
    | _ :: rest => return i :: (← intervals fuel rest)

def isAmong (is : List (Nat × Option Nat)) (n : Nat) : Bool :=
  is.any fun i => i.1 ≤ n && i.2.all (n ≤ ·)

def chosen {α : Type} (is : List (Nat × Option Nat)) (xs : List α) : List α :=
  (xs.zipIdx.filter fun x => isAmong is (x.2 + 1)).map (·.1)

/-- What is left of a line; a line without a separator is one field, or is left out on demand. -/
def ofLine (separator? : Option Char) (strict : Bool) (is : List (Nat × Option Nat))
    (line : List Char) : Option (List Char) :=
  match separator? with
  | none => some (chosen is line)
  | some c =>
    if line.contains c then some (joined [c] (chosen is (line.splitOnP (· == c))))
    else if strict then none
    else some line

end Field

def cut (c : Call) : Doing Nat :=
  withOptions c { flags := ['s'], valued := ['b','c','d','f'] } fun o => do
    let lists := o.given.filter fun g => g.1 ∈ ['b','c','f']
    match lists with
    | [] =>
      misused c failed "you must specify a list of bytes, characters, or fields".toList
    | [(kind,list)] =>
      let fields := kind == 'f'
      let separators := (o.value? 'd').getD ['\t']
      if 1 < separators.length then
        misused c failed "the delimiter must be a single character".toList
      else if !fields && o.has 'd' then
        misused c failed
          "an input delimiter may be specified only when operating on fields".toList
      else if !fields && o.has 's' then
        misused c failed
          "suppressing non-delimited lines makes sense\n\tonly when operating on fields".toList
      else
        match Field.intervals (list.length + 1) list with
        | .error e => misused c failed (e.text fields)
        | .ok is =>
          let (text,status) ← gather c failed "" o.words
          let separator? := if fields then some (separators.headD '\x00') else none
          let printed ← print c
            (unlines ((lines text).filterMap (Field.ofLine separator? (o.has 's') is)))
          return max status printed
    | _ => misused c failed "only one list may be specified".toList

end MatrixHarness.Tool
