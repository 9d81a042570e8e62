import MatrixHarness.Toml.Scalar

/-! # Tagged dates

A table inside a document may stand for a date.  It does if of its keys the tag comes first; then
what is under the tag is the date, and the other keys mean nothing.  The document itself is never a
date, whatever its keys. -/
namespace MatrixHarness.Toml

def dateTag : String := "$__toml_private_datetime"

/-- The key that comes first in the order of keys. -/
def Entries.least? (es : Entries) : Option String := es.sorted.head?.map (·.1.name)

/-- The date that a tagged table stands for; none if it is no date. -/
def Entries.date? (es : Entries) : Option Value :=
  match es.find? dateTag with
  | some (.string text) => if isMoment text.toList then some (.moment text) else none
  | _ => none

mutual

/-- The value with dates in place of tagged tables; none if one of them holds no date. -/
def untag? : Value → Option Value
  | .array headed items => (untagItems? items).map (.array headed)
  | .table origin entries =>
    if Entries.least? entries = some dateTag then Entries.date? entries
    else (untagEntries? entries).map (.table origin)
  | v => some v

def untagItems? : List Value → Option (List Value)
  | [] => some []
  | v :: vs =>
    match untag? v, untagItems? vs with
    | some v, some vs => some (v :: vs)
    | _, _ => none

def untagEntries? : List (Key × Span × Value) → Option (List (Key × Span × Value))
  | [] => some []
  | (key,span,v) :: es =>
    match untag? v, untagEntries? es with
    | some v, some es => some ((key,span,v) :: es)
    | _, _ => none

end

end MatrixHarness.Toml
