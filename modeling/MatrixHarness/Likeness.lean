/-! # Likeness of two words

Jaro's measure, by which a mistyped flag finds the one that was meant.  Two characters match when
they are equal and not further apart than half the longer word; the measure is the mean of the
matched share of either word and the share of matches that are in order. -/
namespace MatrixHarness.Likeness

/-- Half the longer length, less one. -/
def reach (a b : List Char) : Nat := max a.length b.length / 2 - 1

/-- Marks the first unmarked place from `lo` up to, not including, `hi` that holds `c`. -/
def mark? (c : Char) (lo hi : Nat) : Nat → List (Char × Bool) → Option (List (Char × Bool))
  | _, [] => none
  | j, (d,used) :: rest =>
    if hi ≤ j then none
    else if lo ≤ j ∧ c = d ∧ used = false then some ((d,true) :: rest)
    else (mark? c lo hi (j + 1) rest).map ((d,used) :: ·)

/-- The matched characters of the first word in its order, and the second word with its marks. -/
def pair (far : Nat) : Nat → List Char → List (Char × Bool) → List Char × List (Char × Bool)
  | _, [], b => ([],b)
  | i, c :: a, b =>
    match mark? c (i - far) (i + far + 1) 0 b with
    | some b' => let r := pair far (i + 1) a b'; (c :: r.1,r.2)
    | none => pair far (i + 1) a b

/-- Jaro's measure of two words, between 0 and 1. -/
def jaro (s t : String) : Float :=
  let a := s.toList
  let b := t.toList
  if a.isEmpty && b.isEmpty then 1.0
  else
    let (inOrder,marked) := pair (reach a b) 0 a (b.map fun c => (c,false))
    let other := (marked.filter (·.2)).map (·.1)
    let m := inOrder.length
    let swaps := ((inOrder.zip other).filter fun p => p.1 != p.2).length / 2
    if m = 0 then 0.0
    else
      let share (n : Nat) (of : Nat) : Float := n.toFloat / of.toFloat
      (share m a.length + share m b.length + share (m - swaps) m) / 3.0

/-- The likest of the candidates if its measure is above 0.7; of equals the last. -/
def closest? (word : String) (candidates : List String) : Option String :=
  (candidates.foldl (fun best c =>
    let d := jaro word c
    if d > 0.7 then
      match best with
      | some (e,b) => if e > d then some (e,b) else some (d,c)
      | none => some (d,c)
    else best) (none : Option (Float × String))).map (·.2)

end MatrixHarness.Likeness
