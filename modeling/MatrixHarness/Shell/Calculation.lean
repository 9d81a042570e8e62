import MatrixHarness.Shell.Script

/-! # Calculations

Whole numbers of 64 bits with the operators of a shell.  A variable counts as the number it holds,
and one without a value as zero.  The side that a condition does not choose is read but not worked
out. -/
namespace MatrixHarness.Shell

/-- The numbers of 64 bits: what does not fit wraps around. -/
def wrap (n : Int) : Int := Int.bmod n 18446744073709551616

def leastNumber : Int := -9223372036854775808
def greatestNumber : Int := 9223372036854775807

def isSpace (c : Char) : Bool := c ∈ [' ','\t','\n','\x0b','\x0c','\r']

def digitValue (c : Char) : Nat :=
  if c.isDigit then c.toNat - 48 else if c.isAlpha then c.toLower.toNat - 87 else 99

/-- The number at the front of a text in a base, and the rest. -/
def numeralIn (base : Nat) (s : List Char) : Option (Nat × List Char) :=
  let ds := s.takeWhile fun c => digitValue c < base
  if ds.isEmpty then none
  else some (ds.foldl (fun n c => base * n + digitValue c) 0,s.drop ds.length)

/-- The number at the front of a text, in the base that its first digits tell. -/
def numeral (s : List Char) : Option (Nat × List Char) :=
  match s with
  | '0' :: x :: r =>
    if x == 'x' || x == 'X' then (numeralIn 16 r).orElse fun _ => some (0,x :: r)
    else numeralIn 8 s
  | _ => numeralIn 10 s

/-- The whole number that a text tells, blanks around it left aside: in base ten, or as its first
digits say.  Without digits it is zero, but only if the base is open and nothing else is there. -/
def wholeNumber? (anyBase : Bool) (s : List Char) : Option Int :=
  let t := s.dropWhile isSpace
  let (negative,t) := match t with
    | '-' :: r => (true,r)
    | '+' :: r => (false,r)
    | r => (false,r)
  match if anyBase then numeral t else numeralIn 10 t with
  | none => if anyBase && s.all isSpace then some 0 else none
  | some (n,rest) =>
    let value : Int := if negative then -(n : Int) else n
    if rest.all isSpace && leastNumber ≤ value && value ≤ greatestNumber then some value else none

namespace Calculation

inductive Token where
  | number (n : Int)
  | variable (name : List Char)
  | operator (o : String)
  /-- What belongs to no calculation. -/
  | stray
  deriving DecidableEq

def operators : List String :=
  ["<<=",">>=","&&","||","<<",">>","<=",">=","==","!=","+=","-=","*=","/=","%=",
   "&=","|=","^=","+","-","*","/","%","<",">","&","|","^","~","!","?",":","(",")",
   "="]

def tokens : Nat → List Char → List Token
  | 0, _ => []
  | _ + 1, [] => []
  | fuel + 1, c :: r =>
    if isSpace c then tokens fuel r
    else if c.isDigit then
      match numeral (c :: r) with
      | some (n,rest) => .number (min n greatestNumber) :: tokens fuel rest
      | none => .number 0 :: tokens fuel r
    else if isNameStart c then
      .variable (c :: r.takeWhile isNameRest) :: tokens fuel (r.dropWhile isNameRest)
    else
      match operators.find? fun o => o.toList.isPrefixOf (c :: r) with
      | some o => .operator o :: tokens fuel ((c :: r).drop o.length)
      | none => [.stray]

/-- What a calculation knows of the variables, and the values it has given them. -/
structure State where
  left : List Token
  values : List (List Char × Int) := []

abbrev Reading := StateT State (Except (List Char))

def complain {α : Type} (text : String) : Reading α := fun _ => .error text.toList

def next : Reading (Option Token) :=
  modifyGet fun s => (s.left.head?,{ s with left := s.left.tail })
def peek : Reading (Option Token) := return (← get).left.head?

def truth (b : Bool) : Int := if b then 1 else 0

def bits (n : Int) : Nat := (n % 18446744073709551616).toNat
def ofBits (n : Nat) : Int := wrap n

/-- The operators between two numbers, those that bind more closely first. -/
def levels : List (List String) :=
  [["*","/","%"],["+","-"],["<<",">>"],["<","<=",">",">="],["==","!="],["&"],["^"],
   ["|"]]

def apply (o : String) (a b : Int) : Reading Int :=
  match o with
  | "*" => return wrap (a * b)
  | "/" => if b = 0 then complain "division by zero" else return wrap (a.tdiv b)
  | "%" => if b = 0 then complain "division by zero" else return a.tmod b
  | "+" => return wrap (a + b)
  | "-" => return wrap (a - b)
  | "<<" => return wrap (a * Nat.pow 2 (bits b % 64))
  | ">>" => return a.fdiv (Nat.pow 2 (bits b % 64))
  | "<" => return truth (a < b)
  | "<=" => return truth (a ≤ b)
  | ">" => return truth (b < a)
  | ">=" => return truth (b ≤ a)
  | "==" => return truth (a = b)
  | "!=" => return truth (a ≠ b)
  | "&" => return ofBits (bits a &&& bits b)
  | "^" => return ofBits (bits a ^^^ bits b)
  | _ => return ofBits (bits a ||| bits b)

/-- The operator of an assignment; empty if the value is assigned as it is. -/
def assigned? (o : String) : Option String :=
  if o == "=" then some ""
  else if o ∈ ["+=","-=","*=","/=","%=","&=","|=","^=","<<=",">>="] then
    some (String.ofList o.toList.dropLast)
  else none

variable (lookUp : List Char → Option (List Char))

def valueOf (name : List Char) : Reading Int := do
  match (← get).values.find? (·.1 == name) with
  | some v => return v.2
  | none =>
    let text := (lookUp name).getD []
    match wholeNumber? true text with
    | some n => return n
    | none => complain ("Illegal number: " ++ String.ofList text)

mutual

/-- A value, or what is assigned; `live` if it is to be worked out. -/
def assignment : Nat → Bool → Reading Int
  | 0, _ => complain "expecting primary"
  | fuel + 1, live => do
    let s ← get
    match s.left with
    | .variable name :: .operator o :: rest =>
      match assigned? o with
      | none => condition fuel live
      | some o =>
        set { s with left := rest }
        let value ← assignment fuel live
        if live then
          let value ← if o == "" then pure value else do
            let old ← valueOf lookUp name
            apply o old value
          modify fun s => { s with values := (name,value) :: s.values }
          return value
        else return value
    | _ => condition fuel live

def condition : Nat → Bool → Reading Int
  | 0, _ => complain "expecting primary"
  | fuel + 1, live => do
    let c ← either fuel live
    if (← peek) == some (.operator "?") then
      let _ ← next
      let yes ← assignment fuel (live && c != 0)
      if (← next) == some (.operator ":") then
        let no ← condition fuel (live && c == 0)
        return if c != 0 then yes else no
      else complain "expecting ':'"
    else return c

def either : Nat → Bool → Reading Int
  | 0, _ => complain "expecting primary"
  | fuel + 1, live => do
    let a ← both fuel live
    if (← peek) == some (.operator "||") then
      let _ ← next
      let b ← either fuel (live && a == 0)
      return truth (a != 0 || b != 0)
    else return a

def both : Nat → Bool → Reading Int
  | 0, _ => complain "expecting primary"
  | fuel + 1, live => do
    let a ← binary fuel live levels.reverse
    if (← peek) == some (.operator "&&") then
      let _ ← next
      let b ← both fuel (live && a != 0)
      return truth (a != 0 && b != 0)
    else return a

def binary : Nat → Bool → List (List String) → Reading Int
  | 0, _, _ => complain "expecting primary"
  | fuel + 1, live, [] => primary fuel live
  | fuel + 1, live, level :: closer => do
    let a ← binary fuel live closer
    binaryOn fuel live level closer a

def binaryOn : Nat → Bool → List String → List (List String) → Int → Reading Int
  | 0, _, _, _, _ => complain "expecting primary"
  | fuel + 1, live, level, closer, a => do
    match ← peek with
    | some (.operator o) =>
      if o ∈ level then
        let _ ← next
        let b ← binary fuel live closer
        let c ← if live then apply o a b else pure 0
        binaryOn fuel live level closer c
      else return a
    | _ => return a

def primary : Nat → Bool → Reading Int
  | 0, _ => complain "expecting primary"
  | fuel + 1, live => do
    match ← next with
    | some (.number n) => return n
    | some (.variable name) => if live then valueOf lookUp name else return 0
    | some (.operator "(") =>
      let a ← assignment fuel live
      if (← next) == some (.operator ")") then return a else complain "expecting ')'"
    | some (.operator "+") => primary fuel live
    | some (.operator "-") => return wrap (-(← primary fuel live))
    | some (.operator "!") => return truth ((← primary fuel live) == 0)
    | some (.operator "~") => return -(← primary fuel live) - 1
    | _ => complain "expecting primary"

end

/-- The value of a calculation and the values that it assigns, the last ones first. -/
def evaluate (text : List Char) : Except (List Char) (Int × List (List Char × Int)) :=
  let read : Reading Int := do
    let n ← assignment lookUp (16 * text.length + 64) true
    if (← peek).isSome then complain "expecting EOF" else return n
  match read.run { left := tokens (text.length + 1) text } with
  | .ok (n,s) => .ok (n,s.values)
  | .error e =>
    if "Illegal number".toList.isPrefixOf e then .error e
    else .error ("arithmetic expression: ".toList ++ e ++ ": \"".toList ++ text ++ ['\x22'])

end Calculation

def integerText (n : Int) : List Char := (toString n).toList

end MatrixHarness.Shell
