import MatrixHarness.Arguments.Flag
import MatrixHarness.Number.Signed

/-! # Refused command lines

Why a command line is refused, and the text that tells the user so. -/
namespace MatrixHarness.Arguments

/-- Why a text is no number for a flag. -/
inductive BadNumber where
  | unreadable (why : Number.Unreadable)
  | outOfRange (n : Int)
  deriving DecidableEq

/-- The greatest hint of concurrency; the least is 1. -/
def greatestSmp : Int := 4294967295

def BadNumber.text : BadNumber → String
  | unreadable why => why.text
  | outOfRange n => toString n ++ " is not in 1..=" ++ toString greatestSmp

inductive Refusal where
  /-- No such flag, or a word that belongs to none.  `used` are the flags that usage shows. -/
  | unknown (shown : String) (similar : Option Flag) (used : List Flag)
  /-- A value for a flag that takes none. -/
  | unexpectedValue (value : String) (flag : Flag) (used : List Flag)
  /-- No value, or an empty one, for a flag that takes one. -/
  | noValue (flag : Flag)
  /-- A flag is given twice. -/
  | repeated (flag : Flag)
  /-- A value that must be text is not. -/
  | notText
  | badNumber (raw : String) (why : BadNumber)
  /-- The path of the server is not given. -/
  | missing (used : List Flag)
  deriving DecidableEq

/-- The name of the program, unless its first argument tells another. -/
def programName : String := "memcached-matrix"

def required : Flag := .memcached

/-- How to call the program: in general, or with the flags that are in use. -/
def usage (program : String) (used : List Flag) : Marked :=
  [(.heading,"Usage:"),plain " ",(.literal,program)] ++
    if used.isEmpty then plain " [OPTIONS] " :: required.marked
    else
      (required :: (used.filter (· != required)).eraseDups).flatMap fun f =>
        plain " " :: f.marked

namespace Refusal

def reason : Refusal → Marked
  | unknown shown similar _ =>
    [plain "unexpected argument '",(.invalid,shown),plain "' found"] ++ match similar with
      | some f =>
        [plain "\n\n  ",(.valid,"tip:"),plain " a similar argument exists: '",
          (.valid,"--" ++ f.name),plain "'"]
      | none => []
  | unexpectedValue value flag _ =>
    [plain "unexpected value '",(.invalid,value),plain "' for '",(.literal,flag.shown),
      plain "' found; no more were expected"]
  | noValue flag =>
    [plain "a value is required for '",(.invalid,flag.shown),plain "' but none was supplied"]
  | repeated flag =>
    [plain "the argument '",(.invalid,flag.shown),plain "' cannot be used multiple times"]
  | notText => [plain "invalid UTF-8 was detected in one or more arguments"]
  | badNumber raw why =>
    [plain "invalid value '",(.invalid,raw),plain "' for '",(.literal,Flag.smp.shown),
      plain ("': " ++ why.text)]
  | missing _ =>
    [plain "the following required arguments were not provided:\n  ",(.valid,required.shown)]

/-- The flags that usage shows, if usage is shown at all. -/
def usage? : Refusal → Option (List Flag)
  | unknown _ _ used => some used
  | unexpectedValue _ _ used => some used
  | noValue _ => none
  | repeated _ => some []
  | notText => some []
  | badNumber _ _ => none
  | missing used => some (required :: used)

def marked (program : String) (r : Refusal) : Marked :=
  [(.alarm,"error:"),plain " "] ++ r.reason ++
    (match r.usage? with
      | some used => plain "\n\n" :: usage program used
      | none => []) ++
    [plain "\n\nFor more information, try '",(.literal,"--help"),plain "'.\n"]

end Refusal
end MatrixHarness.Arguments
