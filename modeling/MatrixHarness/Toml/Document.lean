import MatrixHarness.Toml.Scalar
import MatrixHarness.Toml.Table
import MatrixHarness.Toml.Text

/-! # TOML documents

Reading a document: keys, values, the lines they stand on, and the tables that the lines build. -/
namespace MatrixHarness.Toml

def isBareKeyChar (c : Char) : Bool := c.isAlphanum || c == '_' || c == '-'

def between (start stop : List Char) : Span := ⟨start.length,stop.length⟩

def key? (s : List Char) : Option (Key × List Char) :=
  match shortString? s with
  | some (name,r) => some (⟨String.ofList name,between s r⟩,r)
  | none =>
    let name := s.takeWhile isBareKeyChar
    let r := s.dropWhile isBareKeyChar
    if name.isEmpty then none else some (⟨String.ofList name,between s r⟩,r)

/-- The parts of a key, with blanks around the dots: those before the last, and the last. -/
def keys? : Nat → List Char → Option (List Key × Key × List Char)
  | 0, _ => none
  | fuel + 1, s =>
    match key? s with
    | none => none
    | some (k,r) =>
      match skipBlank r with
      | '.' :: t => (keys? fuel (skipBlank t)).map fun p => (k :: p.1,p.2)
      | r => some ([],k,r)

/-- How deep values may be nested, and how many parts a key may have. -/
def deepest : Nat := 80

def dottedKey? (s : List Char) : Option (List Key × Key × List Char) :=
  (keys? s.length s).filter fun p => p.1.length < deepest

/-- A key and its value; the gap is what may stand on both sides of the sign between them. -/
def pair? (gap : List Char → Option (List Char)) (value? : List Char → Option (Value × List Char))
    (s : List Char) : Option ((List Key × Key × Span × Value) × List Char) :=
  match dottedKey? s with
  | none => none
  | some (path,key,r) =>
    match gap r with
    | some ('=' :: r) =>
      match gap r with
      | none => none
      | some start =>
        match value? start with
        | some (v,rest) => some ((path,key,between start rest,v),rest)
        | none => none
    | _ => none

/-- The items of an array from here to its end; each stands before a comma or the end. -/
def items? (value? : List Char → Option (Value × List Char)) :
    Nat → List Char → Option (List Value × List Char)
  | 0, _ => none
  | fuel + 1, s =>
    match skipFiller false s with
    | none => none
    | some (']' :: r) => some ([],r)
    | some t =>
      match value? t with
      | none => none
      | some (v,r) =>
        match skipFiller false r with
        | some (',' :: r) => (items? value? fuel r).map fun p => (v :: p.1,p.2)
        | some (']' :: r) => some ([v],r)
        | _ => none

def inlinePairs? (value? : List Char → Option (Value × List Char)) :
    Nat → List Char → Option (List (List Key × Key × Span × Value) × List Char)
  | 0, _ => none
  | fuel + 1, s =>
    match skipFiller false s with
    | none => none
    | some ('\x7d' :: r) => some ([],r)
    | some t =>
      match pair? (skipFiller false) value? t with
      | none => none
      | some (p,r) =>
        match skipFiller false r with
        | some (',' :: r) => (inlinePairs? value? fuel r).map fun q => (p :: q.1,q.2)
        | some ('\x7d' :: r) => some ([p],r)
        | _ => none

def inlineEntries? : List (List Key × Key × Span × Value) → Entries → Option Entries
  | [], es => some es
  | (path,key,span,v) :: ps, es =>
    match insert path key span v .headed es with
    | some (_,es) => inlineEntries? ps es
    | none => none

/-- A value; arrays and tables may be nested as deep as the allowance says. -/
def value? : Nat → List Char → Option (Value × List Char)
  | depth, '[' :: r =>
    match depth with
    | 0 => none
    | depth + 1 =>
      (items? (value? depth) (r.length + 1) r).map fun p => (.array false p.1,p.2)
  | depth, '\x7b' :: r =>
    match depth with
    | 0 => none
    | depth + 1 =>
      match inlinePairs? (value? depth) (r.length + 1) r with
      | some (ps,rest) => (inlineEntries? ps []).map fun es => (.table .inlined es,rest)
      | none => none
  | _, s =>
    match s with
    | '\x22' :: _ => (string? s).map fun p => (.string (String.ofList p.1),p.2)
    | '\x27' :: _ => (string? s).map fun p => (.string (String.ofList p.1),p.2)
    | s =>
      let p := run s
      (scalar? p.1).map fun v => (v,p.2)

def statement? (s : List Char) : Option (Statement × List Char) :=
  match s with
  | '[' :: '[' :: r =>
    match dottedKey? (skipBlank r) with
    | some (path,key,']' :: ']' :: rest) => some (.itemHeader path key (between s rest),rest)
    | _ => none
  | '[' :: r =>
    match dottedKey? (skipBlank r) with
    | some (path,key,']' :: rest) => some (.header path key (between s rest),rest)
    | _ => none
  | s =>
    (pair? (fun r => some (skipBlank r)) (value? deepest) s).map fun p =>
      (.pair p.1.1 p.1.2.1 p.1.2.2.1 p.1.2.2.2,p.2)

def statements? : Nat → List Char → Option (List Statement)
  | 0, _ => none
  | fuel + 1, s =>
    if s.isEmpty then some []
    else
      let t := skipBlank s
      match endLine? t with
      | some r => statements? fuel r
      | none =>
        match statement? t with
        | none => none
        | some (st,r) =>
          match endLine? r with
          | some r => (statements? fuel r).map (st :: ·)
          | none => none

/-- A mark of the encoding at the start of a text is no part of the document. -/
def dropMark : List Char → List Char
  | '\uFEFF' :: r => r
  | r => r

/-- The entries of a document, if the text is one. -/
def read? (text : String) : Option Entries :=
  let s := dropMark text.toList
  match statements? (s.length + 1) s with
  | some sts => (assemble [] sts .headed []).map (·.2)
  | none => none

end MatrixHarness.Toml
