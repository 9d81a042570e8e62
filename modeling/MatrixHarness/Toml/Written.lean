import MatrixHarness.Toml.Scalar

/-! # Written TOML

The text of a string, an integer or a truth value.  A string is written in the first of these forms
that can hold it: plainly between double quotes, between single quotes, between three double or
three single quotes, and with escapes. -/
namespace MatrixHarness.Toml

/-- The character must be escaped wherever it stands; tabs and line feeds need not. -/
def needsCode (c : Char) : Bool :=
  (c < ' ' && c != '\t' && c != '\n') || c == '\x7f'

def longestRun (q : Char) : Nat → List Char → Nat
  | now, [] => now
  | now, c :: r => if c = q then longestRun q (now + 1) r else max now (longestRun q 0 r)

/-- How a string is written. -/
inductive Form where
  | basic
  | literal
  | longBasic
  | longLiteral
  deriving DecidableEq

def Form.of (s : List Char) : Form :=
  let codes := s.any needsCode
  let lines := s.contains '\n'
  if !codes && !s.contains '\\' && !s.contains '\x22' && !lines then .basic
  else if !codes && !s.contains '\x27' && !lines then .literal
  else if !codes && !s.contains '\\' && longestRun '\x22' 0 s ≤ 2 then .longBasic
  else if !codes && longestRun '\x27' 0 s ≤ 2 then .longLiteral
  else if lines then .longBasic
  else .basic

def codeOf (c : Char) : List Char :=
  let ds := (Nat.toDigits 16 c.toNat).map Char.toUpper
  '\\' :: 'u' :: List.replicate (4 - ds.length) '0' ++ ds

def escape (c : Char) : List Char :=
  if c = '\x08' then ['\\','b']
  else if c = '\t' then ['\\','t']
  else if c = '\n' then ['\\','n']
  else if c = '\x0c' then ['\\','f']
  else if c = '\r' then ['\\','r']
  else if c = '\x22' then ['\\','\x22']
  else if c = '\\' then ['\\','\\']
  else if needsCode c then codeOf c
  else [c]

/-- What stands between triple double quotes: line feeds as they are, and of a run of double quotes
each third one escaped. -/
def escapeLong : Nat → List Char → List Char
  | _, [] => []
  | quotes, c :: r =>
    if c = '\x22' then
      if quotes < 2 then c :: escapeLong (quotes + 1) r
      else '\\' :: c :: escapeLong 0 r
    else if c = '\n' then c :: escapeLong 0 r
    else escape c ++ escapeLong 0 r

/-- Text that holds a line end begins on a line of its own. -/
def ownLine (s : List Char) : List Char := if s.contains '\n' then ['\n'] else []

def writeString (s : List Char) : List Char :=
  match Form.of s with
  | .basic => '\x22' :: s.flatMap escape ++ ['\x22']
  | .literal => '\x27' :: s ++ ['\x27']
  | .longBasic =>
    let q := ['\x22','\x22','\x22']
    q ++ ownLine s ++ escapeLong 0 s ++ q
  | .longLiteral =>
    let q := ['\x27','\x27','\x27']
    q ++ ownLine s ++ s ++ q

def writeNat (n : Nat) : List Char := Nat.toDigits 10 n

def writeBoolean (b : Bool) : List Char := (if b then "true" else "false").toList

end MatrixHarness.Toml
