import MatrixHarness.Machine.Simulated
import MatrixHarness.Program

/-! # The command line

Rehearses a matrix: the settings file, the server and the test-runner are read from the disk, and
the scripts among them run on a machine of this library. -/
open MatrixHarness

namespace MatrixHarness.Rehearsal

/-- The entries of a list in which each one ends with a NUL. -/
def terminated (bytes : List UInt8) : List RawText := ((bytes.splitOnP (· == 0)).dropLast).map .mk

def contents? (path : String) : IO (Option RawText) := do
  try
    let bytes ← IO.FS.readBinFile path
    pure (some ⟨bytes.data.toList⟩)
  catch _ => pure none

def addFile (files : Machine.Files) (path : RawText) : IO Machine.Files := do
  match path.text? with
  | none => pure files
  | some name =>
    match ← contents? name with
    | none => pure files
    | some contents => pure (files.add path (.regular 0o755 contents))

def namedFiles (words : List RawText) (env : Environment) (directory : RawText) :
    IO Machine.Files := do
  match Arguments.read words with
  | .run i _ =>
    let files ← i.config.toList.foldlM addFile {}
    let settings := match i.config with
      | some path => (Settings.load files.read path).toOption.getD {}
      | none => {}
    match Resolution.resolve env directory i settings with
    | .ok m => [m.server,m.testRunner].foldlM addFile files
    | .error _ => pure files
  | _ => pure {}

def showOutput (m : Machine) : IO Unit := do
  let out ← IO.getStdout
  let err ← IO.getStderr
  for (stream,text) in m.printed.reverse do
    let bytes : ByteArray := ⟨text.bytes.toArray⟩
    match stream with
    | .out => out.write bytes
    | .err => err.write bytes
  out.flush
  err.flush

end MatrixHarness.Rehearsal

def main (arguments : List String) : IO UInt32 := do
  let words := (← Rehearsal.contents? "/proc/self/cmdline").map fun t =>
    Rehearsal.terminated t.bytes
  let words := words.getD (.ofString Arguments.programName :: arguments.map .ofString)
  let entries := (← Rehearsal.contents? "/proc/self/environ").map fun t =>
    Rehearsal.terminated t.bytes
  let env := Environment.ofEntries (entries.getD [])
  let directory := RawText.ofString (← IO.appDir).toString
  let files ← Rehearsal.namedFiles words env directory
  let program : Program Machine :=
    { host := Machine.host, environment := env, directory := directory,
      contentsOf := files.read, patience := Machine.patience }
  let (code,last) := program.run words { world := { files := files, environment := env } }
  Rehearsal.showOutput last.world
  pure (UInt32.ofNat (code.getD Program.exitFailure))
