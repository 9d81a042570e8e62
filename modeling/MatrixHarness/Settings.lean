import MatrixHarness.Text.Quoted
import MatrixHarness.Toml.Document
import MatrixHarness.Toml.Excerpt

/-! # Settings

The optional settings file: four options, each of which may be left out.  The options of a document
are looked at in the order of their names, and the first that is not as it should be is the
error. -/
namespace MatrixHarness

structure Settings where
  language : Option String := none
  testRunner : Option RawText := none
  smp : Option UInt32 := none
  fast : Bool := false
  deriving DecidableEq, Inhabited

namespace Settings

/-- What a value should be. -/
inductive Expected where
  | text
  | path
  | count
  | flag
  deriving DecidableEq

def Expected.describe : Expected → String
  | text => "a string"
  | path => "path string"
  | count => "u32"
  | flag => "a boolean"

/-- Why a document holds no settings. -/
inductive Mismatch where
  | unknownOption (name : String)
  | wrongKind (found : Toml.Value) (expected : Expected)
  | outOfRange (n : Int)

def describe : Toml.Value → String
  | .string text => "string " ++ Text.quoted text
  | .integer n => "integer \x60" ++ toString n ++ "\x60"
  | .real x => "floating point \x60" ++ x.text ++ "\x60"
  | .boolean b => "boolean \x60" ++ (if b then "true" else "false") ++ "\x60"
  | .moment _ => "map"
  | .array _ _ => "sequence"
  | .table _ _ => "map"

def Mismatch.text : Mismatch → String
  | unknownOption name =>
    "unknown field \x60" ++ name ++
      "\x60, expected one of \x60language\x60, \x60test_runner\x60, \x60smp\x60, \x60fast\x60"
  | wrongKind found expected =>
    "invalid type: " ++ describe found ++ ", expected " ++ expected.describe
  | outOfRange n => "invalid value: integer \x60" ++ toString n ++ "\x60, expected u32"

def take (name : String) (value : Toml.Value) (s : Settings) : Except Mismatch Settings :=
  if name = "language" then
    match value with
    | .string text => .ok { s with language := some text }
    | v => .error (.wrongKind v .text)
  else if name = "test_runner" then
    match value with
    | .string text => .ok { s with testRunner := some (RawText.ofString text) }
    | v => .error (.wrongKind v .path)
  else if name = "smp" then
    match value with
    | .integer n =>
      if 0 ≤ n ∧ n < 4294967296 then .ok { s with smp := some (UInt32.ofNat n.toNat) }
      else .error (.outOfRange n)
    | v => .error (.wrongKind v .count)
  else if name = "fast" then
    match value with
    | .boolean b => .ok { s with fast := b }
    | v => .error (.wrongKind v .flag)
  else .error (.unknownOption name)

/-- Whether a mismatch is told of the key and not of the value. -/
def Mismatch.isOfKey : Mismatch → Bool
  | unknownOption _ => true
  | _ => false

/-- The settings with all options of a list of entries, or the first mismatch and its place. -/
def takeAll : Toml.Entries → Settings → Except (Mismatch × Toml.Span) Settings
  | [], s => .ok s
  | (key,span,value) :: rest, s =>
    match take key.name value s with
    | .ok s => takeAll rest s
    | .error m => .error (m,if m.isOfKey then key.span else span)

def ofEntries (es : Toml.Entries) : Except (Mismatch × Toml.Span) Settings :=
  takeAll es.sorted {}

/-- Why a text holds no settings. -/
inductive Unreadable where
  /-- It is no TOML document. -/
  | malformed
  /-- It is one, but with other contents. -/
  | mismatch (what : Mismatch) (place : Toml.Span)

def Unreadable.text (source : String) : Unreadable → String
  | malformed => "TOML parse error\n"
  | mismatch what place => Toml.excerpt source place what.text

def read (text : String) : Except Unreadable Settings :=
  match Toml.read? text with
  | none => .error .malformed
  | some es =>
    match ofEntries es with
    | .ok s => .ok s
    | .error (m,span) => .error (.mismatch m span)

end Settings
end MatrixHarness
