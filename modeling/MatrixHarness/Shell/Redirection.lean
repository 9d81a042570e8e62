import MatrixHarness.Shell.Expansion
import MatrixHarness.Shell.Search

/-! # Redirections

Where the descriptors of a command lead.  What they led to before is kept, and put back behind the
command. -/
namespace MatrixHarness.Shell

open Machine

abbrev Kept := List (Nat × Option Nat)

/-- Descriptors from this one on belong to the shell alone. -/
def firstKept : Nat := 10

def accessOf (s : State) : Opening → Access
  | .input => { reads := true }
  | .output => { writes := true, creates := true, truncates := true, fresh := s.hasOption 'C' }
  | .forced => { writes := true, creates := true, truncates := true }
  | .append => { writes := true, creates := true, appends := true }
  | .both => { reads := true, writes := true, creates := true }

def openComplaint (opening : Opening) (path : List Char) (e : IoError) : List Char :=
  if opening = .input then
    "cannot open ".toList ++ path ++ ": ".toList ++ missingText "No such file" e
  else "cannot create ".toList ++ path ++ ": ".toList ++ missingText "Directory nonexistent" e

/-- Keeps what a descriptor leads to, unless it is kept already. -/
def keep (n : Nat) (kept : Kept) : Sh Kept := do
  if kept.any (·.1 == n) then return kept
  else
    match ← act (.keep n firstKept) with
    | .ok copy => return (n,some copy) :: kept
    | .error _ => return (n,none) :: kept

def putBack (kept : Kept) : Sh Unit :=
  kept.forM fun k => do
    match k.2 with
    | some copy =>
      let _ ← act (.duplicate copy k.1)
      act (.close copy)
    | none => act (.close k.1)

def letGo (kept : Kept) : Sh Unit :=
  kept.forM fun k => do
    match k.2 with
    | some copy => act (.close copy)
    | none => pure ()

/-- Makes a descriptor lead where another one leads, which is then closed. -/
def lead (opened descriptor : Nat) : Sh Unit := do
  if opened ≠ descriptor then
    let _ ← act (.duplicate opened descriptor)
    act (.close opened)

/-- A redirection whose words are expanded. -/
inductive Route where
  | file (descriptor : Nat) (opening : Opening) (path : List Char)
  | duplicate (descriptor : Nat) (source : List Char)
  | text (descriptor : Nat) (contents : List Char)

def Route.descriptor : Route → Nat
  | file n _ _ => n
  | duplicate n _ => n
  | text n _ => n

def route (run : Command → Sh (List Char)) : Redirect → Sh Route
  | .file n opening w => return .file n opening (← wholeText run w)
  | .duplicate n w => do
    let source ← wholeText run w
    if source == ['-'] || source.length = 1 && source.all Char.isDigit then
      return .duplicate n source
    else
      modify fun s => { s with line := s.readTo, about := none }
      failWith "Syntax error: Bad fd number"
  | .text n w => do
    let ps ← piecesOf run deepestWord w
    return .text n (textOf (← get) ps)

def follow : Route → Sh Unit
  | .file n opening path => do
    match ← act (.openFile (RawText.ofOctets path) (accessOf (← get) opening)) with
    | .ok opened => lead opened n
    | .error e => fail (openComplaint opening path e)
  | .duplicate n source => do
    if source == ['-'] then act (.close n)
    else
      match ← act (.duplicate ((number? source).getD 0) n) with
      | .ok () => pure ()
      | .error e => fail (source ++ ": ".toList ++ e.plainText.toList)
  | .text n contents => do
    let ends ← act .pipe
    let _ ← act (.write ends.2 (RawText.ofOctets contents))
    act (.close ends.2)
    lead ends.1 n

/-- Follows routes in order.  If one fails, all is put back first. -/
def followAll : List Route → Kept → Sh Kept
  | [], kept => return kept
  | r :: rs, kept => do
    let kept ← keep r.descriptor kept
    match ← attempt (follow r) with
    | .ok () => followAll rs kept
    | .error f =>
      putBack kept
      throw f

def redirect (run : Command → Sh (List Char)) (rs : List Redirect) : Sh Kept := do
  let routes ← rs.mapM (route run)
  followAll routes []

end MatrixHarness.Shell
