import MatrixHarness.Number.Rounding

/-! # Doubles

Finite floating-point numbers with 53 binary digits: the one nearest to a decimal, and the shortest
decimal that leads back to it.  All arithmetic is exact. -/
namespace MatrixHarness

/-- The number `mantissa * 2 ^ exponent`, negated if so marked. -/
structure Binary64 where
  negative : Bool
  mantissa : Nat
  exponent : Int
  deriving DecidableEq

namespace Binary64

def scaled (n base : Nat) (e : Int) : Nat × Nat :=
  match e with
  | .ofNat k => (n * Nat.pow base k,1)
  | .negSucc k => (n,Nat.pow base (k + 1))

/-- The least mantissa of 53 binary digits. -/
def leastMantissa : Nat := 4503599627370496

/-- The least power of two that the last binary digit of a number may have. -/
def leastExponent : Int := -1074

/-- The largest, for finite numbers. -/
def greatestExponent : Int := 971

/-- The double nearest to a positive fraction, a half going to the even neighbour; none if it is too
large. -/
def nearest? (num den : Nat) : Option (Nat × Int) :=
  let l : Int := (Nat.log2 num : Int) - Nat.log2 den
  let (a,b) := scaled den 2 l
  let k := if a ≤ num * b then l else l - 1
  let q := max (k - 52) leastExponent
  let (c,d) := scaled den 2 q
  let m := Number.nearestEven (num * d) c
  let (m,q) := if m = 2 * leastMantissa then (leastMantissa,q + 1) else (m,q)
  if q > greatestExponent then none else some (m,q)

/-- The double nearest to `digits * 10 ^ exponent`; none if it is too large. -/
def ofDecimal? (negative : Bool) (digits : Nat) (exponent : Int) : Option Binary64 :=
  let magnitude : Int := (Nat.toDigits 10 digits).length + exponent
  if digits = 0 || magnitude < -330 then some ⟨negative,0,leastExponent⟩
  else if magnitude > 310 then none
  else
    let (num,den) := scaled digits 10 exponent
    (nearest? num den).map fun (m,q) => ⟨negative,m,q⟩

/-- The exponent `e` for which a positive fraction lies between `10 ^ (e - 1)` and `10 ^ e`. -/
def decimalExponent (num den : Nat) : Int :=
  if den ≤ num then (Nat.toDigits 10 (num / den)).length
  else
    let rec lead : Nat → Nat → Int → Int
      | 0, _, e => e
      | fuel + 1, n, e => if den ≤ n * 10 then e else lead fuel (n * 10) (e - 1)
    lead 400 num 0

/-- The multiple of `10 ^ e` next to the fraction that lies between the bounds, if one does; all
three fractions have the same denominator. -/
def onGrid? (low value high den : Nat) (ends : Bool) (e : Int) : Option Nat :=
  let (step,part) := scaled den 10 e
  let fits (c : Nat) : Bool :=
    if ends then low * part ≤ c * step && c * step ≤ high * part
    else low * part < c * step && c * step < high * part
  let below := value * part / step
  match fits below, fits (below + 1) with
  | true, true =>
    if 2 * (value * part % step) < step then some below else some (below + 1)
  | true, false => some below
  | false, true => some (below + 1)
  | false, false => none

/-- The fewest digits that lead back to a positive double, and their exponent. -/
def shortest (m : Nat) (q : Int) : Nat × Int :=
  let (unit,den) := scaled 1 2 (q - 2)
  let low := (4 * m - (if m = leastMantissa ∧ leastExponent < q then 1 else 2)) * unit
  let value := 4 * m * unit
  let high := (4 * m + 2) * unit
  let e := decimalExponent value den
  let rec search : Nat → Nat → Nat × Int
    | 0, _ => (value / den,0)
    | fuel + 1, n =>
      match onGrid? low value high den (m % 2 == 0) (e - n) with
      | some c => (c,e - n)
      | none => search fuel (n + 1)
  search 20 0

/-- Digits in positional notation, with a point where it is needed. -/
def positional (digits : Nat) (exponent : Int) : List Char :=
  let ds := Nat.toDigits 10 digits
  match exponent with
  | .ofNat k => ds ++ List.replicate k '0'
  | .negSucc k =>
    let places := k + 1
    if ds.length ≤ places then '0' :: '.' :: List.replicate (places - ds.length) '0' ++ ds
    else ds.take (ds.length - places) ++ '.' :: ds.drop (ds.length - places)

/-- The shortest text that leads back to the number, in positional notation and with a point. -/
def text (x : Binary64) : String :=
  let cs :=
    if x.mantissa = 0 then ['0']
    else
      let (c,e) := shortest x.mantissa x.exponent
      positional c e
  let cs := if cs.contains '.' then cs else cs ++ ['.','0']
  String.ofList (if x.negative then '-' :: cs else cs)

end Binary64
end MatrixHarness
