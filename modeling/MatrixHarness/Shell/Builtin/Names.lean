import MatrixHarness.Shell.Builtin.Options
import MatrixHarness.Shell.Reader
import MatrixHarness.Shell.Search

/-! # Commands about names

What a name stands for: a word of the language, a command of the shell, a function or a program. -/
namespace MatrixHarness.Shell

open Machine

/-- The commands that the shell runs itself, besides the special ones. -/
def regularNames : List String :=
  ["[","alias","bg","cd","chdir","command","echo","false","fg","getopts","hash","jobs",
   "kill","printf","pwd","read","test","true","type","ulimit","umask","unalias","wait"]

def noteFound (name : List Char) : Sh Unit := modify fun s =>
  { s with found := if s.found.contains name then s.found else name :: s.found }

/-- What a name stands for, as it is told; programs that are found may be remembered. -/
def describe (brief remembers : Bool) (name : List Char) : Sh Nat := do
  let s ← get
  let text := String.ofList name
  let tell (full short : List Char) : Sh Nat := do
    say 1 ((if brief then short else name ++ " is ".toList ++ full) ++ ['\n'])
    return 0
  match s.aliases.find? (·.1 == name) with
  | some a =>
    tell ("an alias for ".toList ++ a.2) ("alias ".toList ++ name ++ '=' :: singleQuote a.2)
  | none =>
    if text ∈ keywords then tell "a shell keyword".toList name
    else if text ∈ specialNames then tell "a special shell builtin".toList name
    else if s.functions.any (·.1 == name) then tell "a shell function".toList name
    else if text ∈ regularNames then tell "a shell builtin".toList name
    else
      let fs ← act .files
      let found := if name.contains '/' then
          if fs.has (RawText.ofOctets name) then .ok name else .error .noSuchFile
        else findCommand fs s name
      match found with
      | .ok path =>
        let known := s.found.contains name && !name.contains '/'
        if remembers then noteFound name
        tell (if known then "a tracked alias for ".toList ++ path else path) path
      | .error _ =>
        if !brief then say 1 (name ++ ": not found\n".toList)
        return 127

/-- Looks for commands, or forgets where they are. -/
def hashAll (words : List (List Char)) : Sh Nat := do
  let g ← given ['r','v'] [] words
  if g.has 'r' then
    modify fun s => { s with found := [] }
    return 0
  else
    let statuses ← g.words.mapM fun name => do
      match findCommand (← act .files) (← get) name with
      | .ok _ =>
        noteFound name
        return 0
      | .error e =>
        complain (commandComplaint name e)
        return 1
    return statuses.foldl max 0

end MatrixHarness.Shell
