import MatrixHarness.Environment
import MatrixHarness.Failure
import MatrixHarness.Text.Alphanumeric

/-! # References in a path

A path from the settings file may refer to variables, `$NAME`, `${NAME}` or `${NAME:-default}`, and
may begin with `~` for the home directory.  A path is scanned once: what a variable holds is
inserted as it is, and a `~` that came from a variable at the start of a path stays. -/
namespace MatrixHarness.Reference

/-- What a path is made of. -/
inductive Part where
  | literal (text : List Char)
  | named (name : List Char) (default? : Option (List Char))
  deriving DecidableEq

def isNameChar (c : Char) : Bool := Text.isAlphanumeric c || c == '_'

/-- The text before and after the first `:-`. -/
def splitDefault? : List Char → Option (List Char × List Char)
  | ':' :: '-' :: r => some ([],r)
  | c :: r => (splitDefault? r).map fun p => (c :: p.1,p.2)
  | [] => none

/-- The reference between braces: a name, or a name and a default.  The name is never empty when
there is a default. -/
def braced (inside : List Char) : Part :=
  match splitDefault? inside with
  | some (c :: name,default) => .named (c :: name) (some default)
  | _ => .named inside none

/-- The text before and after the first closing brace. -/
def splitBrace? : List Char → Option (List Char × List Char)
  | '\x7d' :: r => some ([],r)
  | c :: r => (splitBrace? r).map fun p => (c :: p.1,p.2)
  | [] => none

theorem splitBrace?_length {s : List Char} {p : List Char × List Char}
    (h : splitBrace? s = some p) : p.2.length < s.length := by
  fun_induction splitBrace? s generalizing p with
  | case1 r => simp_all; subst h; simp
  | case2 c r _ ih =>
    obtain ⟨q,hq,rfl⟩ := Option.map_eq_some_iff.1 h
    have := ih hq
    simp only [List.length_cons]
    omega
  | case3 => simp at h

/-- The parts of a path.  A dollar that begins no reference stands for itself, and so do two. -/
def parts : List Char → List Part
  | [] => []
  | '$' :: '\x7b' :: r =>
    match _h : splitBrace? r with
    | some p => braced p.1 :: parts p.2
    | none => .literal ['$','\x7b'] :: parts r
  | '$' :: '$' :: r => .literal ['$'] :: parts r
  | '$' :: c :: r =>
    if isNameChar c then
      .named (c :: r.takeWhile isNameChar) none :: parts (r.dropWhile isNameChar)
    else .literal ['$'] :: parts (c :: r)
  | c :: r => .literal [c] :: parts r
termination_by s => s.length
decreasing_by
  all_goals simp only [List.length_cons]
  · have := splitBrace?_length _h; omega
  · omega
  · omega
  · have := (List.dropWhile_sublist (p := isNameChar) (l := r)).length_le; omega
  · omega
  · omega

/-- A variable with no usable value and no default. -/
structure Unresolved where
  name : String
  cause : Unusable
  deriving DecidableEq

def value (env : Environment) (name : String) : Except Unusable String :=
  match env.get? name with
  | none => .error .undefined
  | some v =>
    match v.text? with
    | some s => .ok s
    | none => .error (.notText v)

def Part.insert (env : Environment) : Part → Except Unresolved (List Char)
  | .literal text => .ok text
  | .named name default? =>
    match value env (String.ofList name), default? with
    | .ok s, _ => .ok s.toList
    | .error _, some default => .ok default
    | .error cause, none => .error ⟨String.ofList name,cause⟩

/-- The path with all references replaced; the first that fails is the error. -/
def insertAll (env : Environment) : List Part → Except Unresolved (List Char)
  | [] => .ok []
  | p :: ps =>
    match p.insert env with
    | .error e => .error e
    | .ok text =>
      match insertAll env ps with
      | .error e => .error e
      | .ok rest => .ok (text ++ rest)

def home? (env : Environment) : Option String := env.text? "HOME"

/-- Replaces a `~` that is the whole of a path or stands before its first slash. -/
def expandTilde (env : Environment) (path : List Char) : List Char :=
  match path, home? env with
  | ['~'], some home => home.toList
  | '~' :: '/' :: r, some home => home.toList ++ '/' :: r
  | path, _ => path

def expandText (env : Environment) (path : List Char) : Except Unresolved (List Char) :=
  match insertAll env (parts path) with
  | .error e => .error e
  | .ok inserted =>
    if path.head? ≠ some '~' ∧ inserted.head? = some '~' then .ok inserted
    else .ok (expandTilde env inserted)

/-- A path that is not text stays as it is. -/
def expand (env : Environment) (path : RawText) : Except Unresolved RawText :=
  match path.text? with
  | none => .ok path
  | some s =>
    match expandText env s.toList with
    | .error e => .error e
    | .ok cs => .ok (RawText.ofString (String.ofList cs))

/-- The account of a failed expansion: the path as written, the variable, and the cause. -/
def Unresolved.trail (locale : String) (path : RawText) (e : Unresolved) : Trail :=
  ⟨[.worded ((Message.pathNotExpanded path.lossy).text locale),.unresolved e.name e.cause],
    .unusable e.cause⟩

end MatrixHarness.Reference
