import MatrixHarness.Arguments.Refusal
import MatrixHarness.Text.Column

/-! # Help

What the program prints when it is asked how to use it, or for its version. -/
namespace MatrixHarness.Arguments

def heading (f : Flag) : Marked :=
  (match f.letter? with
    | some c => [(.literal,"-" ++ String.singleton c),plain ", "]
    | none => [plain "    "]) ++ f.marked

def headingWidth : Nat := (Flag.all.map fun f => (heading f).text.length).foldl max 0

def helpLine (locale : String) (f : Flag) : Marked :=
  plain "  " :: heading f ++
    [plain (Text.blanks (headingWidth - (heading f).text.length)),plain "  ",
      plain (f.about locale),plain "\n"]

def help (locale : String) (program : String) : Marked :=
  [plain (Message.about.text locale),plain "\n\n"] ++ usage program [] ++
    [plain "\n\n",(.heading,"Options:"),plain "\n"] ++ Flag.all.flatMap (helpLine locale)

def versionText : String := programName ++ " 0.1.0\n"

end MatrixHarness.Arguments
