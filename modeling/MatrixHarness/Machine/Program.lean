import MatrixHarness.CommandLine.Quoting
import MatrixHarness.Environment
import MatrixHarness.Machine.Files

/-! # Programs

What a path starts: a program of the machine, or a file that names the program to read it.  A name
without a slash is looked for in the directories of the search path. -/
namespace MatrixHarness.Machine

/-- A program of the machine with the words it is called by, its own name first. -/
structure Program where
  kind : String
  words : List RawText
  deriving DecidableEq

def programOf? (contents : RawText) : Option String :=
  if imageMark.isPrefixOf contents.bytes then
    (RawText.text? ⟨contents.bytes.drop imageMark.length⟩).filter (· ∈ programNames)
  else none

def isBlankByte (b : UInt8) : Bool := b == 0x20 || b == 0x09

/-- The number of bytes in which the first line of a script is read. -/
def firstBytes : Nat := 256

def trimEnd (bs : List UInt8) : List UInt8 := (bs.reverse.dropWhile isBlankByte).reverse

/-- The first line among some bytes, if it is ended there; else all but the last byte. -/
def lineAmong (seen : List UInt8) (ended : Bool) : List UInt8 :=
  trimEnd (if ended then seen.takeWhile (· != 0x0a) else seen.dropLast)

/-- The path and the argument on the first line of a file that begins with `#!`.  A line that is not
ended in its first bytes must at least end the path there; a NUL ends both. -/
def interpreter? (contents : RawText) : Option (RawText × Option RawText) :=
  match contents.bytes with
  | 0x23 :: 0x21 :: r =>
    let seen := (r ++ List.replicate firstBytes 0).take (firstBytes - 2)
    let ends (b : UInt8) : Bool := isBlankByte b || b == 0
    let whole := seen.contains 0x0a
    let named := (lineAmong seen whole).dropWhile isBlankByte
    let path := named.takeWhile (!ends ·)
    let rest := named.dropWhile (!ends ·)
    if path.isEmpty || (!whole && rest.isEmpty) then none
    else
      match rest with
      | [] => some (⟨path⟩,none)
      | b :: bs =>
        let argument := (bs.dropWhile isBlankByte).takeWhile (· != 0)
        some (⟨path⟩,if b == 0 || argument.isEmpty then none else some ⟨argument⟩)
  | _ => none

def mayExecute (mode : Nat) : Bool := mode &&& 0o111 != 0

/-- How many files may be read in turn until a program is found. -/
def longestChain : Nat := 6

def load (fs : Files) : Nat → RawText → List RawText → Except IoError Program
  | 0, _, _ => .error .tooManyLinks
  | chain + 1, path, words =>
    match fs.lookUp path with
    | .error e => .error e
    | .ok (.regular mode contents) =>
      if !mayExecute mode then .error .accessDenied
      else
        match programOf? contents with
        | some kind => .ok ⟨kind,words⟩
        | none =>
          match interpreter? contents with
          | none => .error .badExecutable
          | some (interpreter,argument) =>
            load fs chain interpreter (interpreter :: argument.toList ++ path :: words.tail)
    | .ok _ => .error .accessDenied

def execute (fs : Files) (path : RawText) (words : List RawText) : Except IoError Program :=
  load fs longestChain path words

def defaultSearchPath : RawText := RawText.ofString "/bin:/usr/bin"

/-- The directories of the search path; an empty one is the working directory. -/
def searchPath (env : Environment) : List RawText :=
  (((env.get? "PATH").getD defaultSearchPath).bytes.splitOnP (· == 0x3a)).map RawText.mk

def inDirectory (directory name : RawText) : RawText :=
  if directory.bytes.isEmpty then name else directory ++ RawText.ofString "/" ++ name

/-- The errors after which the search goes on in the next directory. -/
def goesOn (e : IoError) : Bool := e ∈ [.noSuchFile,.accessDenied,.notADirectory]

/-- Looks for a name in one directory after another.  That access was denied is remembered. -/
def search (fs : Files) (name : RawText) (words : List RawText) :
    Option IoError → List RawText → Except IoError Program
  | seen, [] => .error (seen.getD .noSuchFile)
  | seen, d :: ds =>
    match execute fs (inDirectory d name) words with
    | .ok p => .ok p
    | .error e =>
      if !goesOn e then .error e
      else if e == .accessDenied || seen != some .accessDenied then
        search fs name words (some e) ds
      else search fs name words seen ds

def locateProgram (fs : Files) (env : Environment) (cl : CommandLine) : Except IoError Program :=
  let program := cl.program
  if cl.any (·.bytes.contains 0) then .error .nulInWord
  else if program.bytes.isEmpty then .error .noSuchFile
  else if program.bytes.contains slash then execute fs program (program :: cl.arguments)
  else if program.bytes.length > longestName then .error .nameTooLong
  else search fs program (program :: cl.arguments) none (searchPath env)

end MatrixHarness.Machine
