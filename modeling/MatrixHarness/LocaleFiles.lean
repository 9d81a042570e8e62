import MatrixHarness.System.IoError
import MatrixHarness.Text.Quoted
import MatrixHarness.Toml.Document
import MatrixHarness.Toml.Tag

/-! # Locale files

Whether all locale files have the same keys as the one in English.  A key is the path to a
value that is no table, its names joined by dots. -/
namespace MatrixHarness.LocaleFiles

open Toml

/-- A further name behind a dot; nothing is put behind an empty name. -/
def extend (before name : String) : String :=
  if before.isEmpty then name else before ++ "." ++ name

mutual

/-- The keys below some entries, each behind what was joined before. -/
def keysBehind (before : String) : List (Key × Span × Value) → List String
  | [] => []
  | (key,_,value) :: entries =>
    keysAt (extend before key.name) value ++ keysBehind before entries

/-- The keys of a value that has a joined name; a value that is no table is a key itself. -/
def keysAt (joined : String) : Value → List String
  | .table _ entries => keysBehind joined entries
  | _ => [joined]

end

/-- The keys of a document; one that is reached in two ways is listed twice. -/
def keys (entries : Entries) : List String := keysBehind "" entries

/-- What the directory lists under a name, and what reading it gave. -/
structure LocaleFile where
  name : RawText
  isFile : Bool
  contents : Except IoError RawText

/-- Why the check cannot be made. -/
inductive Stopped where
  | unreadable (path : RawText) (error : IoError)
  | malformed (path : RawText)
  deriving DecidableEq

/-- What could not be done; of a text that is no document no more is told. -/
def Stopped.about : Stopped → String
  | unreadable path _ => "Failed to read " ++ path.quoted
  | malformed path => "Failed to parse " ++ path.quoted

def Stopped.text (s : Stopped) : String :=
  match s with
  | unreadable _ e => s.about ++ ": " ++ e.text
  | malformed _ => s.about

/-- What is wrong with a file. -/
inductive Problem where
  | missing (path : RawText) (key : String)
  | extra (path : RawText) (key : String)
  deriving DecidableEq

def Problem.text : Problem → String
  | missing path key => path.lossy ++ ": missing key '" ++ key ++ "'"
  | extra path key => path.lossy ++ ": key '" ++ key ++ "' not present in en.toml"

/-- The directory of the locale files, and the file that the others are compared with. -/
def directory : RawText := RawText.ofString "locales"
def baseName : RawText := RawText.ofString "en.toml"

def pathOf (name : RawText) : RawText := directory ++ RawText.ofString "/" ++ name

/-- A name that ends in `.toml` and has something before it. -/
def isLocaleName (name : RawText) : Bool :=
  let ending := (RawText.ofString ".toml").bytes
  ending.isSuffixOf name.bytes && name.bytes != ending

def LocaleFile.isLocale (f : LocaleFile) : Bool := f.isFile && isLocaleName f.name

def keysOf (f : LocaleFile) : Except Stopped (List String) :=
  match f.contents with
  | .error e => .error (.unreadable (pathOf f.name) e)
  | .ok contents =>
    match contents.text? with
    | none => .error (.unreadable (pathOf f.name) .notText)
    | some text =>
      match (Toml.read? text).bind untagEntries? with
      | none => .error (.malformed (pathOf f.name))
      | some entries => .ok (keys entries)

def insertKey (key : String) : List String → List String
  | [] => [key]
  | k :: ks =>
    if key < k then key :: k :: ks
    else if key = k then k :: ks
    else k :: insertKey key ks

def keySet (ks : List String) : List String := ks.foldr insertKey []

def compare (path : RawText) (base found : List String) : List Problem :=
  (((keySet base).filter (· ∉ found)).map (.missing path)) ++
    (((keySet found).filter (· ∉ base)).map (.extra path))

/-- What is wrong with several files; the first that cannot be read is the end. -/
def compareAll (base : List String) : List LocaleFile → Except Stopped (List Problem)
  | [] => .ok []
  | f :: fs =>
    match keysOf f with
    | .error s => .error s
    | .ok found =>
      match compareAll base fs with
      | .error s => .error s
      | .ok problems => .ok (compare (pathOf f.name) base found ++ problems)

def baseFile (files : List LocaleFile) : LocaleFile :=
  (files.find? (·.name == baseName)).getD ⟨baseName,false,.error .noSuchFile⟩

/-- The problems of all locale files in the directory, in the order in which it lists them. -/
def check (files : List LocaleFile) : Except Stopped (List Problem) :=
  match keysOf (baseFile files) with
  | .error s => .error s
  | .ok base => compareAll base (files.filter LocaleFile.isLocale)

/-- How the check of the directory ends. -/
inductive Verdict where
  /-- The directory cannot be listed. -/
  | unlisted (error : IoError)
  | stopped (why : Stopped)
  | outOfSync (lines : List String)
  | agreed
  deriving DecidableEq

def verdict : Except IoError (List LocaleFile) → Verdict
  | .error e => .unlisted e
  | .ok files =>
    match check files with
    | .error s => .stopped s
    | .ok problems =>
      if problems = [] then .agreed else .outOfSync (problems.map Problem.text)

/-- The message with which the build breaks off, if it is of the check. -/
def Verdict.message? : Verdict → Option String
  | unlisted _ => none
  | stopped why => some why.text
  | outOfSync lines => some ("Locale files are out of sync:\n  " ++ "\n  ".intercalate lines)
  | agreed => none

/-- What is printed: when all is well, that the directory is to be watched. -/
def Verdict.printed : Verdict → String
  | agreed => "cargo:rerun-if-changed=locales/\n"
  | _ => ""

end MatrixHarness.LocaleFiles
