import MatrixHarness.Number.Binary64

/-! # TOML values

What a document holds, each key and value with the place where it stands.  A place is told by how
much of the text was left there, so that a reader need not count what it has passed. -/
namespace MatrixHarness.Toml

/-- From the first character to behind the last, both counted backwards from the end of the text. -/
structure Span where
  start : Nat
  stop : Nat
  deriving DecidableEq, Inhabited

structure Key where
  name : String
  span : Span
  deriving DecidableEq, Inhabited

/-- How a table came about, which decides who may add to it. -/
inductive Origin where
  /-- It has a header of its own, or is the document. -/
  | headed
  /-- It is named on the way to a header. -/
  | passed
  /-- It is named before the last dot of a key. -/
  | dotted
  /-- It is written between braces. -/
  | inlined
  deriving DecidableEq

/-- A floating-point number, which need not be finite. -/
inductive Real where
  | finite (x : Binary64)
  | infinite (negative : Bool)
  | notANumber

inductive Value where
  | string (text : String)
  | integer (n : Int)
  | real (x : Real)
  | boolean (b : Bool)
  /-- A date, a time, or both, as it is written. -/
  | moment (text : String)
  /-- `headed` if its items have headers of their own. -/
  | array (headed : Bool) (items : List Value)
  | table (origin : Origin) (entries : List (Key × Span × Value))

/-- The keys of a table with their values, in the order of the text. -/
abbrev Entries := List (Key × Span × Value)

namespace Entries

def find? (name : String) : Entries → Option Value
  | [] => none
  | (k,_,v) :: es => if k.name = name then some v else find? name es

def replace (name : String) (value : Value) : Entries → Entries
  | [] => []
  | (k,s,v) :: es =>
    if k.name = name then (k,s,value) :: es else (k,s,v) :: replace name value es

def sorted (es : Entries) : Entries := es.mergeSort fun a b => a.1.name ≤ b.1.name

end Entries

def Real.text : Real → String
  | finite x => x.text
  | infinite negative => if negative then "-inf" else "inf"
  | notANumber => "NaN"

end MatrixHarness.Toml
