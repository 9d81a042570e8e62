import MatrixHarness.Text.After
import MatrixHarness.Text.Raw

/-! # The environment

Variables and their values, in the form in which a process gets them: a list of entries
`NAME=VALUE`.  A look-up compares the start of an entry, so a name that holds `=` reaches into the
value of a variable. -/
namespace MatrixHarness

structure Environment where
  entries : List (String × RawText)

namespace Environment

def empty : Environment := ⟨[]⟩

def set (e : Environment) (name : String) (value : RawText) : Environment :=
  ⟨(name,value) :: e.entries.filter (·.1 != name)⟩

def written (v : String × RawText) : RawText := RawText.ofString v.1 ++ RawText.ofString "=" ++ v.2

/-- The variables of a list of entries; what is no entry, or has a name that is not text, is left
out. -/
def ofEntries (entries : List RawText) : Environment :=
  ⟨entries.filterMap fun e =>
    match e.bytes.dropWhile (· != 0x3d) with
    | _ :: value =>
      (RawText.text? ⟨e.bytes.takeWhile (· != 0x3d)⟩).map fun name => (name,⟨value⟩)
    | [] => none⟩

/-- The value under a name; no variable has the empty name. -/
def get? (e : Environment) (name : String) : Option RawText :=
  if name.isEmpty then none
  else
    let start := RawText.ofString name ++ RawText.ofString "="
    e.entries.findSome? fun v => (Text.after? start.bytes (written v).bytes).map RawText.mk

/-- The value under a name if it is text and not empty. -/
def text? (e : Environment) (name : String) : Option String :=
  ((e.get? name).bind RawText.text?).filter (!·.isEmpty)

end Environment
end MatrixHarness
