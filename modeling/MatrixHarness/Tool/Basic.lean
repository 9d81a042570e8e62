import MatrixHarness.Machine.Course
import MatrixHarness.Machine.Program
import MatrixHarness.Shell.Script

/-! # Tools

What all small programs have in common: how they are called, how they complain, how they read their
options, and where they read and write. -/
namespace MatrixHarness.Tool

open Machine Shell

/-- How a tool is called. -/
structure Call where
  name : List Char
  words : List (List Char)
  environment : Environment

def succeeded : Nat := 0
def failed : Nat := 1

def complain (c : Call) (text : List Char) : Doing Unit := do
  let _ ← Doing.write 2 (RawText.ofOctets (c.name ++ ": ".toList ++ text ++ ['\n']))

def fail (c : Call) (text : List Char) : Doing Nat := do
  complain c text
  return failed

def covered (c : Char) : List Char :=
  if c == '\x27' || c == '\\' then ['\\',c]
  else if c == '\n' then ['\\','n']
  else if c == '\t' then ['\\','t']
  else [c]

def quoted (w : List Char) : List Char := '\x27' :: w.flatMap covered ++ ['\x27']

def meansSomething (c : Char) : Bool :=
  c ∈ ['!','\x22','$','&','(',')','*',';','<','=','>','?','[','^','\x60','|','\\']

def isVisible (c : Char) : Bool := ' ' ≤ c && c ≤ '~'

def told (c : Char) : List Char :=
  match c with
  | '\n' => ['\\','n']
  | '\t' => ['\\','t']
  | '\r' => ['\\','r']
  | c =>
    let digit (k : Nat) : Char := Char.ofNat ('0'.toNat + c.toNat / k % 8)
    ['\\',digit 64,digit 8,digit 1]

/-- The inside of a quoted name; characters that cannot be seen stand in quotes of their own. -/
def insideQuotes : Bool → List Char → List Char
  | _, [] => []
  | hidden, c :: cs =>
    if isVisible c then
      let close : List Char := if hidden then ['\x27','\x27'] else []
      close ++ (if c == '\x27' then ['\x27','\\','\x27','\x27'] else [c]) ++
        insideQuotes false cs
    else
      let start : List Char := if hidden then [] else ['\x27','$','\x27']
      start ++ told c ++ insideQuotes true cs

/-- The name of a file, quoted so that a shell would take it as one word. -/
def quotedFile (w : List Char) : List Char :=
  if w.contains '\x27' && w.all (fun c => isVisible c && !meansSomething c) then
    '\x22' :: w ++ ['\x22']
  else '\x27' :: insideQuotes false w ++ ['\x27']

/-- The name of a file, quoted only if a shell would not take it as it stands. -/
def fileName (w : List Char) : List Char :=
  let starts := w.head? == some '#' || w.head? == some '~'
  let alone := w == ['\x7b'] || w == ['\x7d']
  let plain (c : Char) : Bool :=
    isVisible c && !meansSomething c && !(c == ' ' || c == '\x27' || c == ':')
  if w.isEmpty || starts || alone || !w.all plain then quotedFile w else w

def advice (c : Call) : List Char :=
  "\nTry ".toList ++ quoted (c.name ++ " --help".toList) ++ " for more information.".toList

def misused (c : Call) (code : Nat) (text : List Char) : Doing Nat := do
  complain c (text ++ advice c)
  return code

def missingOperand (c : Call) : Doing Nat := misused c failed "missing operand".toList

def print (c : Call) (text : List Char) : Doing Nat := do
  if text.isEmpty then return succeeded
  else
    match ← Doing.write 1 (RawText.ofOctets text) with
    | .ok () => return succeeded
    | .error e => fail c ("write error: ".toList ++ e.plainText.toList)

/-- How much is read at a time, and how often at most. -/
def chunk : Nat := 65536
def longestFile : Nat := 1000000

/-- What can be read on a descriptor behind a text, until there is enough. -/
def readUntil (enough : List Char → Bool) (descriptor : Nat) :
    Nat → List Char → Doing (Except IoError (List Char))
  | 0, before => return .ok before
  | fuel + 1, before => do
    if enough before then return .ok before
    else
      match ← Doing.read descriptor chunk with
      | .error e => return .error e
      | .ok text =>
        if text.bytes.isEmpty then return .ok before
        else readUntil enough descriptor fuel (before ++ text.octets)

def readAll (descriptor : Nat) : Doing (Except IoError (List Char)) :=
  readUntil (fun _ => false) descriptor longestFile []

/-- What a file holds, until there is enough; a dash is the standard input. -/
def contentsUntil (enough : List Char → Bool) (file : List Char) :
    Doing (Except IoError (List Char)) := do
  if file == ['-'] then readUntil enough 0 longestFile []
  else
    match ← Doing.openFile (RawText.ofOctets file) { reads := true } with
    | .error e => return .error e
    | .ok n =>
      let text ← readUntil enough n longestFile []
      Doing.close n
      return text

def contents (file : List Char) : Doing (Except IoError (List Char)) :=
  contentsUntil (fun _ => false) file

def aboutFile (file : List Char) (e : IoError) : List Char :=
  fileName file ++ ": ".toList ++ e.plainText.toList

/-- Reads files one after another and uses what they hold; without names the standard input is
read. -/
def eachFile (files : List (List Char))
    (use : List Char → Except IoError (List Char) → Doing Nat) : Doing Nat := do
  let statuses ← (if files.isEmpty then [['-']] else files).mapM fun file => do
    use file (← contents file)
  return statuses.foldl max 0

def gather (c : Call) (failed : Nat) (before : String) (files : List (List Char)) :
    Doing (List Char × Nat) := do
  let parts ← (if files.isEmpty then [['-']] else files).mapM fun file => do
    match ← contents file with
    | .error e => do
      complain c (before.toList ++ aboutFile file e)
      return (([] : List Char),failed)
    | .ok text => return (text,succeeded)
  return (parts.flatMap (·.1),(parts.map (·.2)).foldl max 0)

/-- The lines of a text; the last one may lack its end. -/
def lines (text : List Char) : List (List Char) :=
  let parts := text.splitOnP (· == '\n')
  if parts.getLast? == some [] then parts.dropLast else parts

def unlines (ls : List (List Char)) : List Char := ls.flatMap (· ++ ['\n'])

/-- Options that were given, each with its value, and the other words. -/
structure Options where
  given : List (Char × List Char) := []
  words : List (List Char) := []

def Options.has (o : Options) (c : Char) : Bool := o.given.any (·.1 == c)

def Options.value? (o : Options) (c : Char) : Option (List Char) :=
  (o.given.reverse.find? (·.1 == c)).map (·.2)

/-- Which options a tool knows. -/
structure Known where
  flags : List Char := []
  valued : List Char := []
  /-- Long names, each with the letter that means the same. -/
  long : List (String × Char) := []
  /-- Options end at the first other word. -/
  ordered : Bool := false

/-- The letters in one word, and the one that wants the next word as its value. -/
def letters (k : Known) : List Char → Except (List Char) (List (Char × List Char) × Option Char)
  | [] => .ok ([],none)
  | c :: cs =>
    if k.valued.contains c then .ok (if cs.isEmpty then ([],some c) else ([(c,cs)],none))
    else if k.flags.contains c then
      (letters k cs).map fun p => ((c,[]) :: p.1,p.2)
    else .error ("invalid option -- ".toList ++ quoted [c])

def options (k : Known) : List (List Char) → Except (List Char) Options
  | [] => .ok {}
  | w :: ws =>
    match w with
    | ['-','-'] => .ok { words := ws }
    | '-' :: '-' :: long => do
      let name := long.takeWhile (· != '=')
      match k.long.find? fun l => l.1.toList == name with
      | none => .error ("unrecognized option ".toList ++ quoted w)
      | some (_,c) =>
        let o ← options k ws
        return { o with given := (c,(long.dropWhile (· != '=')).drop 1) :: o.given }
    | '-' :: c :: cs => do
      match ← letters k (c :: cs) with
      | (found,none) =>
        let o ← options k ws
        return { o with given := found ++ o.given }
      | (found,some letter) =>
        match ws with
        | [] => .error ("option requires an argument -- ".toList ++ quoted [letter])
        | value :: ws =>
          let o ← options k ws
          return { o with given := found ++ (letter,value) :: o.given }
    | w =>
      if k.ordered then .ok { words := w :: ws }
      else (options k ws).map fun o => { o with words := w :: o.words }

def withOptions (c : Call) (k : Known) (use : Options → Doing Nat) : Doing Nat := do
  match options k c.words with
  | .ok o => use o
  | .error e => misused c failed e

end MatrixHarness.Tool
