import MatrixHarness.Machine.Permission
import MatrixHarness.Shell.Builtin.Options

/-! # Commands about places

The working directory, and the permissions of new files. -/
namespace MatrixHarness.Shell

open Machine

def plainPath (path : List Char) : List Char :=
  let parts := (path.splitOnP (· == '/')).filter fun p => !p.isEmpty && p != ['.']
  let kept := parts.foldl (fun done p => if p == ['.','.'] then done.dropLast else done ++ [p]) []
  '/' :: joined ['/'] kept

def pathFrom (place path : List Char) : List Char :=
  plainPath (if path.head? == some '/' then path else place ++ '/' :: path)

namespace Builtin

def place : Sh (List Char) := return ((← get).value? "PWD".toList).getD ['/']

/-- The directories in which `cd` looks for a path, each with whether the place is then told. -/
def searched (s : State) (path : List Char) : List (List Char × Bool) :=
  let first := path.takeWhile (· != '/')
  if path.head? == some '/' || first == ['.'] || first == ['.','.'] then [(path,false)]
  else
    match s.value? "CDPATH".toList with
    | none => [(path,false)]
    | some list =>
      (list.splitOnP (· == ':')).map (fun d =>
        if d.isEmpty then (path,false)
        else ((if d.getLast? == some '/' then d else d ++ ['/']) ++ path,true)) ++ [(path,false)]

/-- Goes to the first of some places that can be entered. -/
def enterAny (here : List Char) : List (List Char × Bool) → Sh (Option (List Char × Bool))
  | [] => return none
  | (path,told) :: rest => do
    let there := pathFrom here path
    match ← act (.enter (RawText.ofOctets there)) with
    | .ok () => return some (there,told)
    | .error _ => enterAny here rest

/-- The working directory without links on the way. -/
def straightPlace : Sh (List Char) := do
  return '/' :: joined ['/'] ((← act .files).place.map RawText.octets)

def cd (words : List (List Char)) : Sh Nat := do
  let g ← given ['L','P','e'] [] words
  let s ← get
  let back := g.words.head? == some ['-']
  let wanted := match g.words with
    | [] => (s.value? "HOME".toList).getD []
    | w :: _ => if back then (s.value? "OLDPWD".toList).getD [] else w
  if wanted.isEmpty && g.words.isEmpty then return 0
  else
    let here ← place
    let paths := if wanted.isEmpty then [(here,false)] else searched s wanted
    match ← enterAny here paths with
    | none => fail ("can't cd to ".toList ++ wanted)
    | some (there,told) =>
      let there ← if g.has 'P' then straightPlace else pure there
      assign "OLDPWD".toList here
      assign "PWD".toList there
      modify fun s =>
        let exported (s : State) (n : String) : State :=
          match s.named? n.toList with
          | some v => s.put { v with exported := true }
          | none => s
        exported (exported s "OLDPWD") "PWD"
      if back || told then say 1 (there ++ ['\n'])
      return 0

def pwd (words : List (List Char)) : Sh Nat := do
  let g ← given ['L','P'] [] words
  say 1 ((← if g.has 'P' then straightPlace else place) ++ ['\n'])
  return 0

def octal (width n : Nat) : List Char :=
  let ds := Nat.toDigits 8 n
  List.replicate (width - ds.length) '0' ++ ds

def lettered (mask : Nat) : List Char :=
  let group (name : Char) (shift : Nat) : List Char :=
    name :: '=' :: (rightsLetters shift (0o777 - mask)).filter (· != '-')
  joined [','] [group 'u' 6,group 'g' 3,group 'o' 0]

def umask (words : List (List Char)) : Sh Nat := do
  let g ← given ['S'] [] words
  let mask := (← act .self).mask
  match g.words with
  | [] =>
    say 1 ((if g.has 'S' then lettered mask else octal 4 mask) ++ ['\n'])
    return 0
  | w :: _ =>
    if isOctal w then
      act (.setMask (octalValue w % 512))
      return 0
    else if (w.head?.map Char.isDigit).getD true then illegalNumber w
    else
      match clauses? w with
      | some change =>
        act (.setMask (0o777 - change (0o777 - mask) % 512))
        return 0
      | none => fail ("Illegal mode: ".toList ++ w)

end Builtin

end MatrixHarness.Shell
