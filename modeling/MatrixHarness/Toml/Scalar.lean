import MatrixHarness.Toml.Value

/-! # Numbers, truth values, dates and times of TOML

Each is a run of letters, digits and a few marks.  The run is read as a whole, so that what cannot
be read is refused and not cut short. -/
namespace MatrixHarness.Toml

/-- May stand in a scalar that is no string. -/
def isScalarChar (c : Char) : Bool := c.isAlphanum || c ∈ ['+','-','_','.',':']

/-- Digits, between which single underscores may stand. -/
def digits? (ok : Char → Bool) : List Char → Option (List Char)
  | [] => none
  | [c] => if ok c then some [c] else none
  | c :: '_' :: r => if ok c then (digits? ok r).map (c :: ·) else none
  | c :: r => if ok c then (digits? ok r).map (c :: ·) else none

def numberOf (base : Nat) (digits : List Char) : Nat :=
  digits.foldl (fun n c =>
    base * n + (if c.isDigit then c.toNat - 48 else c.toLower.toNat - 87)) 0

def isOctal (c : Char) : Bool := '0' ≤ c && c ≤ '7'
def isBinary (c : Char) : Bool := c == '0' || c == '1'
def isHex (c : Char) : Bool := c.isDigit || ('a' ≤ c && c ≤ 'f') || ('A' ≤ c && c ≤ 'F')

/-- Digits of base ten without a zero in front of others. -/
def decimal? (s : List Char) : Option (List Char) :=
  match digits? Char.isDigit s with
  | some ('0' :: _ :: _) => none
  | ds => ds

/-- Whether a sign stands in front and is a minus, and what follows it. -/
def splitSign : List Char → Bool × List Char
  | '-' :: r => (true,r)
  | '+' :: r => (false,r)
  | r => (false,r)

/-- Integers lie in the range of 64 bits with a sign.  TOML asks for an error where a number cannot
be represented, so that a text with a larger one is no document, whatever its keys are. -/
def inRange (n : Int) : Bool := -9223372036854775808 ≤ n && n ≤ 9223372036854775807

def integer? (s : List Char) : Option Int :=
  let n : Option Int := match s with
    | '0' :: 'x' :: r => (digits? isHex r).map fun ds => numberOf 16 ds
    | '0' :: 'o' :: r => (digits? isOctal r).map fun ds => numberOf 8 ds
    | '0' :: 'b' :: r => (digits? isBinary r).map fun ds => numberOf 2 ds
    | s =>
      let (negative,r) := splitSign s
      (decimal? r).map fun ds =>
        if negative then -(numberOf 10 ds : Int) else numberOf 10 ds
  n.filter inRange

def isDigitOrLow (c : Char) : Bool := c.isDigit || c == '_'

/-- The digits behind a point, if there is one, and what is left. -/
def fraction? : List Char → Option (List Char × List Char)
  | '.' :: r =>
    (digits? Char.isDigit (r.takeWhile isDigitOrLow)).map fun ds => (ds,r.dropWhile isDigitOrLow)
  | r => some ([],r)

/-- The exponent, which is the last part of a number; zero if there is none. -/
def exponent? : List Char → Option Int
  | [] => some 0
  | c :: r =>
    if c = 'e' || c = 'E' then
      let (negative,t) := splitSign r
      (digits? Char.isDigit t).map fun ds =>
        if negative then -(numberOf 10 ds : Int) else numberOf 10 ds
    else none

/-- A floating-point number; one that is too large is refused. -/
def real? (s : List Char) : Option Real :=
  let (negative,r) := splitSign s
  if r = ['i','n','f'] then some (.infinite negative)
  else if r = ['n','a','n'] then some .notANumber
  else
    match decimal? (r.takeWhile isDigitOrLow), fraction? (r.dropWhile isDigitOrLow) with
    | some whole, some (places,t) =>
      if places.isEmpty && t.isEmpty then none
      else
        match exponent? t with
        | some e =>
          (Binary64.ofDecimal? negative (numberOf 10 (whole ++ places))
            (e - places.length)).map .finite
        | none => none
    | _, _ => none

/-- A number of exactly so many digits, and what is left. -/
def fixed? (count : Nat) (s : List Char) : Option (Nat × List Char) :=
  let ds := s.take count
  if ds.length = count ∧ ds.all Char.isDigit then some (numberOf 10 ds,s.drop count) else none

def two? (mark : Char) (low high : Nat) : List Char → Option (Nat × List Char)
  | c :: r =>
    if c = mark then (fixed? 2 r).filter fun p => low ≤ p.1 && p.1 ≤ high else none
  | [] => none

def isLeap (year : Nat) : Bool := year % 4 == 0 && (year % 100 != 0 || year % 400 == 0)

def daysIn (year month : Nat) : Nat :=
  if month = 2 then (if isLeap year then 29 else 28)
  else if month ∈ [4,6,9,11] then 30 else 31

def skipDate? (s : List Char) : Option (List Char) := do
  let (year,r) ← fixed? 4 s
  let (month,r) ← two? '-' 1 12 r
  let (_,r) ← two? '-' 1 (daysIn year month) r
  some r

/-- What is left behind the time of a day; seconds and their fraction may be left out. -/
def skipTime? (s : List Char) : Option (List Char) := do
  let (_,r) ← (fixed? 2 s).filter (·.1 ≤ 23)
  let (_,r) ← two? ':' 0 59 r
  match r with
  | ':' :: _ => do
    let (_,r) ← two? ':' 0 60 r
    match r with
    | '.' :: t =>
      if (t.takeWhile Char.isDigit).isEmpty then none else some (t.dropWhile Char.isDigit)
    | _ => some r
  | _ => some r

def isOffset : List Char → Bool
  | [] => true
  | ['Z'] => true
  | ['z'] => true
  | c :: r =>
    (c == '+' || c == '-') &&
      match (fixed? 2 r).filter (·.1 ≤ 23) with
      | some (_,t) => (two? ':' 0 59 t).any (·.2.isEmpty)
      | none => false

def isMoment (s : List Char) : Bool :=
  match skipDate? s with
  | some [] => true
  | some (c :: r) => (c ∈ ['T','t',' ']) && (skipTime? r).any isOffset
  | none => (skipTime? s).any List.isEmpty

def scalar? (run : List Char) : Option Value :=
  if run = ['t','r','u','e'] then some (.boolean true)
  else if run = ['f','a','l','s','e'] then some (.boolean false)
  else if isMoment run then some (.moment (String.ofList run))
  else
    match integer? run with
    | some n => some (.integer n)
    | none => (real? run).map .real

/-- A run and what is left.  A blank and a digit behind a date go on with its time. -/
def run (s : List Char) : List Char × List Char :=
  let first := s.takeWhile isScalarChar
  let rest := s.dropWhile isScalarChar
  match rest with
  | ' ' :: d :: t =>
    if d.isDigit && (skipDate? first).any List.isEmpty then
      (first ++ ' ' :: (d :: t).takeWhile isScalarChar,(d :: t).dropWhile isScalarChar)
    else (first,rest)
  | _ => (first,rest)

end MatrixHarness.Toml
