import MatrixHarness.Shell.Pattern

/-! # Expressions

What lines are searched for.  An expression fits stretches of a line; what a group has fitted may be
asked for again.  Of the stretches from one place on, the longest counts. -/
namespace MatrixHarness.Tool

open Shell

/-- A place between two characters of a line, or at an end of it. -/
inductive Edge where
  | front
  | ending
  | wordStart
  | wordEnd
  | wordEdge
  | noWordEdge
  /-- No word ends here. -/
  | afterNoWord
  /-- No word starts or goes on here. -/
  | beforeNoWord
  deriving DecidableEq

inductive Expression where
  | nothing
  | one (a : Atom)
  | edge (e : Edge)
  | sequence (e f : Expression)
  | either (e f : Expression)
  /-- Several times, at least and at most so often. -/
  | several (least : Nat) (most : Option Nat) (e : Expression)
  | group (number : Nat) (e : Expression)
  /-- What a group has fitted. -/
  | again (number : Nat)

def isOfWord (c : Char) : Bool := c.isAlphanum || c == '_'

def Edge.holds (e : Edge) (before next : Option Char) : Bool :=
  match e with
  | front => before.isNone
  | ending => next.isNone
  | wordStart => !before.any isOfWord && next.any isOfWord
  | wordEnd => before.any isOfWord && !next.any isOfWord
  | wordEdge => before.any isOfWord != next.any isOfWord
  | noWordEdge => before.any isOfWord == next.any isOfWord
  | afterNoWord => !before.any isOfWord
  | beforeNoWord => !next.any isOfWord

namespace Expression

/-- How far a line has been fitted, and what the groups have fitted. -/
structure Stand where
  before : Option Char := none
  rest : List Char
  groups : List (Nat × List Char) := []

def Stand.group? (s : Stand) (number : Nat) : Option (List Char) :=
  (s.groups.find? (·.1 == number)).map (·.2)

def Stand.behind (n : Nat) (s : Stand) : Stand :=
  { s with before := ((s.rest.take n).getLast?).or s.before, rest := s.rest.drop n }

/-- Of several stands at one place the first. -/
def distinct (ss : List Stand) : List Stand :=
  ss.foldl (fun kept s =>
    if kept.any (·.rest.length == s.rest.length) then kept else kept ++ [s]) []

/-- Goes on with a step again and again; more steps come first. -/
def repeated (step : Stand → List Stand) (least : Nat) (most : Option Nat) :
    Nat → Nat → List Stand → List Stand
  | 0, _, _ => []
  | fuel + 1, n, ss =>
    let here := if least ≤ n then ss else []
    if ss.isEmpty || most.any (· ≤ n) then here
    else
      let goesOn (s t : Stand) : Bool := n < least || t.rest.length < s.rest.length
      let next := distinct (ss.flatMap fun s => (step s).filter (goesOn s))
      repeated step least most fuel (n + 1) next ++ here

/-- Where an expression may end that begins at a stand. -/
def ends : Expression → Stand → List Stand
  | nothing, s => [s]
  | one a, s =>
    match s.rest with
    | [] => []
    | c :: _ => if Pattern.fitsOne a c then [s.behind 1] else []
  | edge e, s => if e.holds s.before s.rest.head? then [s] else []
  | sequence e f, s => distinct ((ends e s).flatMap (ends f))
  | either e f, s => distinct (ends e s ++ ends f s)
  | several least most e, s => repeated (ends e) least most (s.rest.length + least + 2) 0 [s]
  | group number e, s =>
    (ends e s).map fun t =>
      let fitted := s.rest.take (s.rest.length - t.rest.length)
      { t with groups := (number,fitted) :: t.groups }
  | again number, s =>
    match s.group? number with
    | some text => if text.isPrefixOf s.rest then [s.behind text.length] else []
    | none => []

def longest? (e : Expression) (s : Stand) : Option Stand :=
  (e.ends s).foldl (fun best t =>
    if best.all (t.rest.length < ·.rest.length) then some t else best) none

/-- The places of a line at which an expression may begin. -/
def stands : Option Char → List Char → List Stand
  | before, [] => [{ before := before, rest := [] }]
  | before, c :: cs => { before := before, rest := c :: cs } :: stands (some c) cs

def isIn (e : Expression) (line : List Char) : Bool :=
  (stands none line).any fun s => !(e.ends s).isEmpty

/-- The stretches of a line that an expression fits, one behind another; empty ones are left out. -/
def stretchesIn (e : Expression) : Nat → Stand → List (List Char)
  | 0, _ => []
  | fuel + 1, s =>
    let on := if s.rest.isEmpty then [] else stretchesIn e fuel (s.behind 1)
    match e.longest? s with
    | none => on
    | some t =>
      let n := s.rest.length - t.rest.length
      if n = 0 then on else s.rest.take n :: stretchesIn e fuel (s.behind n)

def ofText : List Char → Expression
  | [] => nothing
  | c :: cs => sequence (one (.char c)) (ofText cs)

def anyOf : List Expression → Option Expression
  | [] => none
  | e :: es =>
    match anyOf es with
    | none => some e
    | some f => some (either e f)

def bothCases (i : Char × Char) : List (Char × Char) :=
  let within (a b : Char) : Option (Char × Char) :=
    let first := if a ≤ i.1 then i.1 else a
    let last := if b ≤ i.2 then b else i.2
    if first ≤ last then some (first,last) else none
  let other (f : Char → Char) (j : Char × Char) : Char × Char := (f j.1,f j.2)
  i :: ((within 'a' 'z').map (other Char.toUpper)).toList ++
    ((within 'A' 'Z').map (other Char.toLower)).toList

/-- An expression to which the case of letters does not matter. -/
def caseless : Expression → Expression
  | one (.char c) => one (.among false (bothCases (c,c)))
  | one (.among negated is) => one (.among negated (is.flatMap bothCases))
  | sequence e f => sequence e.caseless f.caseless
  | either e f => either e.caseless f.caseless
  | several least most e => several least most e.caseless
  | group n e => group n e.caseless
  | e => e

/-- An expression that fits whole lines only. -/
def ofLine (e : Expression) : Expression :=
  sequence (edge .front) (sequence e (edge .ending))

/-- An expression that fits no part of a word. -/
def ofWords (e : Expression) : Expression :=
  sequence (edge .afterNoWord) (sequence e (edge .beforeNoWord))

def hasGroup : Expression → Bool
  | sequence e f => e.hasGroup || f.hasGroup
  | either e f => e.hasGroup || f.hasGroup
  | several _ _ e => e.hasGroup
  | group _ _ => true
  | _ => false

end Expression
end MatrixHarness.Tool
