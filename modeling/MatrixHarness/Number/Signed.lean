/-! # Signed numbers of 64 bits

Reading a number from the whole of a text: an optional sign and digits.  Digits are taken one by
one, so a number that grows out of range is refused before a later character is looked at. -/
namespace MatrixHarness.Number

inductive Unreadable where
  | empty
  | invalidDigit
  | tooLarge
  | tooSmall
  deriving DecidableEq

def Unreadable.text : Unreadable → String
  | empty => "cannot parse integer from empty string"
  | invalidDigit => "invalid digit found in string"
  | tooLarge => "number too large to fit in target type"
  | tooSmall => "number too small to fit in target type"

def greatest : Int := 9223372036854775807
def least : Int := -9223372036854775808

/-- Takes digits, each of which is added or, for a negative number, taken away. -/
def takeDigits (negative : Bool) : Int → List Char → Except Unreadable Int
  | n, [] => .ok n
  | n, c :: cs =>
    if c.isDigit then
      let d : Int := c.toNat - '0'.toNat
      let n := if negative then 10 * n - d else 10 * n + d
      if greatest < n then .error .tooLarge
      else if n < least then .error .tooSmall
      else takeDigits negative n cs
    else .error .invalidDigit

def readSigned (s : String) : Except Unreadable Int :=
  match s.toList with
  | [] => .error .empty
  | ['+'] => .error .invalidDigit
  | ['-'] => .error .invalidDigit
  | '+' :: cs => takeDigits false 0 cs
  | '-' :: cs => takeDigits true 0 cs
  | cs => takeDigits false 0 cs

end MatrixHarness.Number
