import MatrixHarness.Toml.Value

/-! # Building tables

How keys and headers put values into nested tables, and which of them contradict one another: a key
has one value, a table has one header, and dotted keys neither add to a table with a header nor to
one between braces. -/
namespace MatrixHarness.Toml

abbrev Change := Origin → Entries → Option (Origin × Entries)

/-- The table that a value is or, for an array of tables, ends with; and how to put it back. -/
def open? (dotted : Bool) : Value → Option (Origin × Entries × (Origin × Entries → Value))
  | .table origin entries =>
    if origin = .inlined || (dotted && origin = .headed) then none
    else some (origin,entries,fun t => .table t.1 t.2)
  | .array true items =>
    match items.getLast? with
    | some (.table origin entries) =>
      some (origin,entries,fun t => .array true (items.dropLast ++ [.table t.1 t.2]))
    | _ => none
  | _ => none

/-- Changes the table at the end of a path; tables that the path names and that are not there are
made on the way. -/
def alter (dotted : Bool) (change : Change) : List Key → Change
  | [], origin, entries => change origin entries
  | k :: path, origin, entries =>
    match entries.find? k.name with
    | none =>
      (alter dotted change path (if dotted then .dotted else .passed) []).map fun t =>
        (origin,entries ++ [(k,k.span,.table t.1 t.2)])
    | some v =>
      match open? dotted v with
      | none => none
      | some (o,es,close) =>
        (alter dotted change path o es).map fun t => (origin,entries.replace k.name (close t))

def insert (path : List Key) (key : Key) (span : Span) (value : Value) : Change :=
  let dotted := !path.isEmpty
  alter dotted (fun origin entries =>
    if (origin == .dotted) != dotted then none
    else if (entries.find? key.name).isSome then none
    else some (origin,entries ++ [(key,span,value)])) path

def beginTable (path : List Key) (key : Key) (span : Span) : Change :=
  alter false (fun origin entries =>
    match entries.find? key.name with
    | none => some (origin,entries ++ [(key,span,.table .headed [])])
    | some (.table .passed inner) =>
      some (origin,entries.filter (·.1.name != key.name) ++ [(key,span,.table .headed inner)])
    | some _ => none) path

def beginItem (path : List Key) (key : Key) (span : Span) : Change :=
  alter false (fun origin entries =>
    match entries.find? key.name with
    | none => some (origin,entries ++ [(key,span,.array true [.table .headed []])])
    | some (.array true items) =>
      some (origin,entries.replace key.name (.array true (items ++ [.table .headed []])))
    | some _ => none) path

/-- One line of a document. -/
inductive Statement where
  | pair (path : List Key) (key : Key) (span : Span) (value : Value)
  | header (path : List Key) (key : Key) (span : Span)
  | itemHeader (path : List Key) (key : Key) (span : Span)

/-- Applies the lines in order; `here` is the path of the last header. -/
def assemble : List Key → List Statement → Change
  | _, [], origin, entries => some (origin,entries)
  | here, .pair path key span value :: rest, origin, entries =>
    match alter false (insert path key span value) here origin entries with
    | none => none
    | some (o,es) => assemble here rest o es
  | _, .header path key span :: rest, origin, entries =>
    match beginTable path key span origin entries with
    | none => none
    | some (o,es) => assemble (path ++ [key]) rest o es
  | _, .itemHeader path key span :: rest, origin, entries =>
    match beginItem path key span origin entries with
    | none => none
    | some (o,es) => assemble (path ++ [key]) rest o es

end MatrixHarness.Toml
