/-! # Decimals

A number written with digits, perhaps with a point among them and an exponent behind. -/
namespace MatrixHarness.Number

def ofDigits (ds : List Char) : Nat := ds.foldl (fun n c => 10 * n + (c.toNat - '0'.toNat)) 0

/-- The exponent at the front of a text, and the rest. -/
def exponent? (s : List Char) : Option (Int × List Char) :=
  match s with
  | e :: r =>
    if e == 'e' || e == 'E' then
      let (negative,r) := match r with
        | '-' :: r => (true,r)
        | '+' :: r => (false,r)
        | r => (false,r)
      let ds := r.takeWhile Char.isDigit
      if ds.isEmpty then none
      else some (if negative then -(ofDigits ds : Int) else ofDigits ds,r.drop ds.length)
    else none
  | [] => none

/-- The decimal at the front of a text, as a number and the power of ten that goes with it; and the
rest. -/
def decimal? (s : List Char) : Option ((Nat × Int) × List Char) :=
  let whole := s.takeWhile Char.isDigit
  let behind := s.drop whole.length
  let (places,rest) := match behind with
    | '.' :: r => (r.takeWhile Char.isDigit,r.dropWhile Char.isDigit)
    | r => ([],r)
  if whole.isEmpty && places.isEmpty then none
  else
    let (e,rest) := (exponent? rest).getD (0,rest)
    some ((ofDigits (whole ++ places),e - places.length),rest)

end MatrixHarness.Number
