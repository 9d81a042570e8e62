import MatrixHarness.Tool.Basic
import MatrixHarness.Tool.Expression.Reader

/-! # Searching lines

The tool `grep`: it prints the lines that expressions fit.  That nothing was found is a status of
its own. -/
namespace MatrixHarness.Tool

open Machine Shell

namespace Search

def found : Nat := 0
def notFound : Nat := 1
def trouble : Nat := 2

def usage : String :=
  "Usage: grep [OPTION]... PATTERNS [FILE]...\nTry 'grep --help' for more information.\n"

def misuse (c : Call) (complaint : Option (List Char)) : Doing Nat := do
  complaint.forM (complain c)
  let _ ← Doing.write 2 (RawText.ofString usage)
  return trouble

def known : Known :=
  { flags := ['q','s','c','v','F','E','G','x','w','i','y','n','h','H','l','L','o',
      'a']
    valued := ['e','m']
    long := [("quiet",'q'),("silent",'q'),("no-messages",'s'),("count",'c'),
      ("invert-match",'v'),("fixed-strings",'F'),("extended-regexp",'E'),
      ("basic-regexp",'G'),("line-regexp",'x'),("word-regexp",'w'),("ignore-case",'i'),
      ("line-number",'n'),("no-filename",'h'),("with-filename",'H'),
      ("files-with-matches",'l'),("files-without-match",'L'),("only-matching",'o'),
      ("text",'a'),("regexp",'e'),("max-count",'m')] }

/-- The texts that are searched for, and the files. -/
def wanted? (o : Options) : Option (List (List Char) × List (List Char)) :=
  match o.given.filterMap fun g => if g.1 == 'e' then some g.2 else none, o.words with
  | [], [] => none
  | [], e :: files => some ([e],files)
  | es, files => some (es,files)

/-- The kind of expressions that counts: the last one that is told. -/
def kind (o : Options) : Char :=
  ((o.given.reverse.map (·.1)).find? fun c => c == 'F' || c == 'E' || c == 'G').getD 'G'

/-- The expression that fits what one of several texts asks for; each line of a text is an
expression of its own. -/
def expression? (o : Options) (texts : List (List Char)) : Except String (Option Expression) := do
  let read (line : List Char) : Except String Expression :=
    if kind o == 'F' then .ok (.ofText line) else Expression.read (kind o == 'E') line
  let es ← (texts.flatMap (List.splitOnP (· == '\n'))).mapM read
  return (Expression.anyOf es).map fun e =>
    let e := if o.has 'i' || o.has 'y' then e.caseless else e
    if o.has 'x' then e.ofLine else if o.has 'w' then e.ofWords else e

def shown (o : Options) (e : Expression) (line : List Char) : List (List Char) :=
  if o.has 'o' then
    if o.has 'v' then [] else e.stretchesIn (line.length + 1) { rest := line }
  else [line]

def searchText (c : Call) (o : Options) (e : Expression) (most : Option Nat) (title : List Char)
    (file text : List Char) : Doing Nat := do
  let fitting := (lines text).zipIdx.filter fun l => e.isIn l.1 != o.has 'v'
  let fitting := (most.map fitting.take).getD fitting
  let named : List Char := if file == ['-'] then "(standard input)".toList else file
  if o.has 'q' then pure ()
  else if o.has 'l' || o.has 'L' then
    if fitting.isEmpty == o.has 'L' then
      let _ ← print c (named ++ ['\n'])
  else if o.has 'c' then
    let _ ← print c (title ++ digits fitting.length ++ ['\n'])
  else if text.contains '\x00' && !o.has 'a' && !fitting.isEmpty then
    complain c (named ++ ": binary file matches".toList)
  else
    let _ ← print c (fitting.flatMap fun l =>
      (shown o e l.1).flatMap fun s =>
        title ++ (if o.has 'n' then digits (l.2 + 1) ++ [':'] else []) ++ s ++ ['\n'])
  return if fitting.isEmpty then notFound else found

/-- Searches files one after another; when it is quiet, one line is enough. -/
def searchFiles (c : Call) (o : Options) (e : Expression) (most : Option Nat) (titled : Bool) :
    List (List Char) → Doing (List Nat)
  | [] => return []
  | file :: files => do
    let fits (line : List Char) : Bool := e.isIn line != o.has 'v'
    let enough (text : List Char) : Bool := o.has 'q' && (lines text).dropLast.any fits
    let status ← match ← contentsUntil enough file with
      | .error e =>
        if !o.has 's' then complain c (file ++ ": ".toList ++ e.plainText.toList)
        pure trouble
      | .ok text =>
        let named : List Char := if file == ['-'] then "(standard input)".toList else file
        searchText c o e most (if titled then named ++ [':'] else []) file text
    if o.has 'q' && status = found then return [status]
    else return status :: (← searchFiles c o e most titled files)

def statusOf (quiet : Bool) (statuses : List Nat) : Nat :=
  if statuses.contains trouble && !(quiet && statuses.contains found) then trouble
  else if statuses.contains found then found
  else notFound

end Search

def grep (c : Call) : Doing Nat := do
  match options Search.known c.words with
  | .error e => Search.misuse c (some e)
  | .ok o =>
    match Search.wanted? o with
    | none => Search.misuse c none
    | some (texts,files) =>
      let most := o.value? 'm'
      if most.any fun m => (number? m).isNone then
        complain c "invalid max count".toList
        return Search.trouble
      else
        match Search.expression? o texts with
        | .error e =>
          complain c e.toList
          return Search.trouble
        | .ok e =>
          let titled := !o.has 'h' && (o.has 'H' || 1 < files.length)
          let statuses ← Search.searchFiles c o (e.getD .nothing) (most.bind number?) titled
            (if files.isEmpty then [['-']] else files)
          return Search.statusOf (o.has 'q') statuses

end MatrixHarness.Tool
