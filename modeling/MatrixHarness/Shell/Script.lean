import MatrixHarness.Text.Raw

/-! # Scripts

What a script says, once it is read: commands made of commands, and simple commands made of words.
A script is read byte by byte, so each of its characters stands for one byte. -/
namespace MatrixHarness

namespace RawText

def octets (t : RawText) : List Char := t.bytes.map fun b => Char.ofNat b.toNat

def ofOctets (cs : List Char) : RawText := ⟨cs.map fun c => UInt8.ofNat c.toNat⟩

end RawText

namespace Shell

/-- What stands behind a dollar. -/
inductive Parameter where
  | variable (name : List Char)
  /-- The name of the script is argument 0. -/
  | argument (n : Nat)
  /-- All arguments, as one text if they are quoted. -/
  | together
  /-- All arguments, each for itself. -/
  | each
  | count
  | status
  | self
  /-- The last command in the background. -/
  | background
  | options
  deriving DecidableEq

/-- What stands in for a parameter that has no value. -/
inductive Substitute where
  | default
  /-- The parameter gets this value. -/
  | assigned
  /-- The script ends with this complaint. -/
  | complaint
  /-- This stands in for a parameter that has a value. -/
  | alternative
  deriving DecidableEq

/-- What a redirection does with a file. -/
inductive Opening where
  | input
  | output
  /-- Output, even where files are not to be overwritten. -/
  | forced
  | append
  | both
  deriving DecidableEq

mutual

/-- A stretch of a word; what is quoted is neither split nor a pattern. -/
inductive Stretch where
  | text (quoted : Bool) (cs : List Char)
  | parameter (quoted : Bool) (p : Parameter) (use : Use)
  /-- What a command prints. -/
  | output (quoted : Bool) (c : Command)
  | calculation (quoted : Bool) (w : List Stretch)

/-- What is made of the value of a parameter. -/
inductive Use where
  | value
  | length
  /-- An empty value counts as none if the flag is set. -/
  | substitute (empty : Bool) (kind : Substitute) (w : List Stretch)
  /-- Without what fits a pattern at one end. -/
  | trimmed (back longest : Bool) (pattern : List Stretch)
  /-- What cannot be understood. -/
  | wrong

/-- Where a descriptor of a command leads. -/
inductive Redirect where
  | file (descriptor : Nat) (opening : Opening) (name : List Stretch)
  | duplicate (descriptor : Nat) (source : List Stretch)
  | text (descriptor : Nat) (contents : List Stretch)

inductive Command where
  | nothing
  | simple (line : Nat) (assignments : List (List Char × List Stretch))
    (words : List (List Stretch)) (redirects : List Redirect)
  | pipeline (stages : List Command)
  | background (line : Nat) (c : Command)
  | sequence (first second : Command)
  /-- The second runs if the status of the first is zero (`wanted`), or if it is not. -/
  | chain (wanted : Bool) (first second : Command)
  | negate (c : Command)
  | choose (condition yes no : Command)
  /-- The body runs as long as the status of the condition is zero (`wanted`), or is not. -/
  | loop (wanted : Bool) (condition body : Command)
  /-- The body runs once for each word, or each argument. -/
  | each (line : Nat) (name : List Char) (words : Option (List (List Stretch))) (body : Command)
  | select (line : Nat) (subject : List Stretch) (arms : List (List (List Stretch) × Command))
  | subshell (line : Nat) (c : Command) (redirects : List Redirect)
  | redirected (line : Nat) (c : Command) (redirects : List Redirect)
  | define (line : Nat) (name : List Char) (body : Command)

end

abbrev Word := List Stretch

instance : Inhabited Command := ⟨.nothing⟩

/-- What is wrong with a script, and on which line. -/
structure Misread where
  line : Nat
  text : List Char

def isNameStart (c : Char) : Bool := c.isAlpha || c == '_'
def isNameRest (c : Char) : Bool := c.isAlphanum || c == '_'

def isName : List Char → Bool
  | [] => false
  | c :: cs => isNameStart c && cs.all isNameRest

def digits (n : Nat) : List Char := Nat.toDigits 10 n

def number? (cs : List Char) : Option Nat :=
  if cs.isEmpty || !cs.all Char.isDigit then none
  else some (cs.foldl (fun n c => 10 * n + (c.toNat - '0'.toNat)) 0)

def joined (between : List Char) (words : List (List Char)) : List Char :=
  List.intercalate between words

def spaced (words : List (List Char)) : List Char := joined [' '] words

end Shell
end MatrixHarness
