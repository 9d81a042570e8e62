import MatrixHarness.Shell.Script

/-! # Patterns

A star stands for any text, a question mark for one character, and brackets for one character of a
set.  What is quoted stands for itself. -/
namespace MatrixHarness.Shell

/-- A character of a word, and whether it stands for itself. -/
abbrev Glyph := Bool × Char

inductive Atom where
  | char (c : Char)
  | one
  | many
  /-- A character that is in one of the intervals, or in none. -/
  | among (negated : Bool) (intervals : List (Char × Char))
  deriving DecidableEq

abbrev Pattern := List Atom

namespace Pattern

def intervalsOf (name : List Char) : List (Char × Char) :=
  match String.ofList name with
  | "alpha" => [('a','z'),('A','Z')]
  | "digit" => [('0','9')]
  | "alnum" => [('a','z'),('A','Z'),('0','9')]
  | "upper" => [('A','Z')]
  | "lower" => [('a','z')]
  | "space" => [('\t','\r'),(' ',' ')]
  | "blank" => [('\t','\t'),(' ',' ')]
  | "punct" => [('!','/'),(':','@'),('[','\x60'),('\x7b','~')]
  | "print" => [(' ','~')]
  | "graph" => [('!','~')]
  | "cntrl" => [('\x00','\x1f'),('\x7f','\x7f')]
  | "xdigit" => [('0','9'),('a','f'),('A','F')]
  | _ => []

def className? : List Glyph → Option (List Char × List Glyph)
  | (_,':') :: (_,']') :: r => some ([],r)
  | (_,c) :: r => if c.isAlpha then (className? r).map fun p => (c :: p.1,p.2) else none
  | [] => none

/-- The intervals between brackets, and what is behind. -/
def intervals? : Nat → Bool → List Glyph → Option (List (Char × Char) × List Glyph)
  | 0, _, _ => none
  | _ + 1, _, [] => none
  | fuel + 1, first, (quoted,c) :: r =>
    if c == ']' && !quoted && !first then some ([],r)
    else
      let single := (intervals? fuel false r).map fun p => ((c,c) :: p.1,p.2)
      match r with
      | (false,'-') :: (q,d) :: r' =>
        if d == ']' && !q then single
        else (intervals? fuel false r').map fun p => ((c,d) :: p.1,p.2)
      | (false,':') :: r' =>
        if c == '[' && !quoted then
          match className? r' with
          | some (name,r'') =>
            (intervals? fuel false r'').map fun p => (intervalsOf name ++ p.1,p.2)
          | none => single
        else single
      | _ => single

def ofGlyphs? : Nat → List Glyph → Pattern
  | 0, _ => []
  | _ + 1, [] => []
  | fuel + 1, (true,c) :: r => .char c :: ofGlyphs? fuel r
  | fuel + 1, (false,c) :: r =>
    if c == '*' then .many :: ofGlyphs? fuel r
    else if c == '?' then .one :: ofGlyphs? fuel r
    else if c == '\\' then
      match r with
      | (_,d) :: r => .char d :: ofGlyphs? fuel r
      | [] => [.char '\\']
    else if c == '[' then
      let negated := match r with
        | (false,d) :: _ => d == '!' || d == '^'
        | _ => false
      match intervals? (r.length + 1) true (if negated then r.tail else r) with
      | some (is,rest) => .among negated is :: ofGlyphs? fuel rest
      | none => .char '[' :: ofGlyphs? fuel r
    else .char c :: ofGlyphs? fuel r

def ofGlyphs (gs : List Glyph) : Pattern := ofGlyphs? (gs.length + 1) gs

/-- What is left of a text after none, one, … all of its characters. -/
def remainders : List Char → List (List Char)
  | [] => [[]]
  | c :: cs => (c :: cs) :: remainders cs

def fitsOne : Atom → Char → Bool
  | .char d, c => c == d
  | .among negated is, c => is.any (fun i => i.1 ≤ c && c ≤ i.2) != negated
  | _, _ => true

def fits : Pattern → List Char → Bool
  | [], cs => cs.isEmpty
  | .many :: p, cs => (remainders cs).any (fits p)
  | a :: p, cs =>
    match cs with
    | c :: cs => fitsOne a c && fits p cs
    | [] => false

def isPlain (p : Pattern) : Bool :=
  p.all fun
    | .char _ => true
    | _ => false

def text (p : Pattern) : List Char :=
  p.filterMap fun
    | .char c => some c
    | _ => none

/-- How many characters at the front fit, if some number does. -/
def front? (longest : Bool) (p : Pattern) (cs : List Char) : Option Nat :=
  let lengths := (List.range (cs.length + 1)).filter fun n => fits p (cs.take n)
  if longest then lengths.getLast? else lengths.head?

def trim (back longest : Bool) (p : Pattern) (cs : List Char) : List Char :=
  if back then ((front? longest p.reverse cs.reverse).map fun n => cs.take (cs.length - n)).getD cs
  else ((front? longest p cs).map fun n => cs.drop n).getD cs

end Pattern
end MatrixHarness.Shell
