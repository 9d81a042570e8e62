import MatrixHarness.Settings
import MatrixHarness.Toml.Written

/-! # Written settings

Settings as the text of a document: one line for each option that is set, and one for the flag. -/
namespace MatrixHarness.Settings

def line (name : String) (value : List Char) : List Char :=
  name.toList ++ [' ','=',' '] ++ value ++ ['\n']

def optionLine (name : String) (value : Option (List Char)) : List Char :=
  match value with
  | some v => line name v
  | none => []

/-- The document; none if the path of the test-runner is not text. -/
def write? (s : Settings) : Option String :=
  let document (testRunner : Option String) : String :=
    String.ofList
      (optionLine "language" (s.language.map fun t => Toml.writeString t.toList) ++
        optionLine "test_runner" (testRunner.map fun t => Toml.writeString t.toList) ++
        optionLine "smp" (s.smp.map fun n => Toml.writeNat n.toNat) ++
        line "fast" (Toml.writeBoolean s.fast))
  match s.testRunner with
  | none => some (document none)
  | some path => path.text?.map fun t => document (some t)

def notWritten : String := "path contains invalid UTF-8 characters"

end MatrixHarness.Settings
