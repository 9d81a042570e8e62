import MatrixHarness.Number.Binary64

/-! # Numbers with so many places

A fraction as a decimal with a given number of places, either plainly or with an exponent.  Halves
go to the even neighbour. -/
namespace MatrixHarness.Number

/-- The digits of a fraction times a power of ten, rounded. -/
def scaledDigits (num den : Nat) (e : Int) : Nat :=
  match e with
  | .ofNat k => nearestEven (num * Nat.pow 10 k) den
  | .negSucc k => nearestEven num (den * Nat.pow 10 (k + 1))

/-- A point before the last digits, if there are any or it is wanted. -/
def withPoint (point : Bool) (places : Nat) (ds : List Char) : List Char :=
  let ds := List.replicate (places + 1 - ds.length) '0' ++ ds
  let cut := ds.length - places
  ds.take cut ++ (if places = 0 && !point then [] else '.' :: ds.drop cut)

def plainly (point : Bool) (places num den : Nat) : List Char :=
  withPoint point places (Nat.toDigits 10 (scaledDigits num den places))

/-- The first digits of a fraction, one more than the places, and the exponent of the first one. -/
def leading (places num den : Nat) : Nat × Int :=
  if num = 0 then (0,0)
  else
    let e := Binary64.decimalExponent num den - 1
    let n := scaledDigits num den (places - e)
    if n = Nat.pow 10 (places + 1) then (Nat.pow 10 places,e + 1) else (n,e)

def exponentText (e : Int) : List Char :=
  let ds := Nat.toDigits 10 e.natAbs
  'e' :: (if e < 0 then '-' else '+') :: List.replicate (2 - ds.length) '0' ++ ds

/-- A fraction with one digit before the point and an exponent. -/
def withExponent (point : Bool) (places num den : Nat) : List Char :=
  let (n,e) := leading places num den
  withPoint point places (Nat.toDigits 10 n) ++ exponentText e

def trimZeros (cs : List Char) : List Char :=
  if cs.contains '.' then
    let r := cs.reverse.dropWhile (· == '0')
    (if r.head? == some '.' then r.tail else r).reverse
  else cs

/-- A fraction with so many digits, plainly if its exponent is not far from zero. -/
def generally (point : Bool) (size num den : Nat) : List Char :=
  let size := max 1 size
  let (n,e) := leading (size - 1) num den
  let trim (cs : List Char) : List Char := if point then cs else trimZeros cs
  if -4 ≤ e && e < size then
    trim (plainly point (size - 1 - e).toNat num den)
  else trim (withPoint point (size - 1) (Nat.toDigits 10 n)) ++ exponentText e

end MatrixHarness.Number
