/-! # Words of a shell command

How a shell splits a line into words: blanks and line ends part words, `#` begins a comment where a
word could begin, a backslash takes the next character as it is and removes a line end, nothing is
special between single quotes, and between double quotes a backslash keeps its meaning before
`$`, the backquote, `"`, a backslash and a line end. -/
namespace MatrixHarness.CommandLine

/-- Where in the line the reader stands. -/
inductive Place where
  | between
  | comment
  | inWord
  | afterBackslash
  | inSingle
  | inDouble
  | afterBackslashInDouble
  deriving DecidableEq

def isBlank (c : Char) : Bool := c == ' ' || c == '\t' || c == '\n'

/-- The words from here on, with the characters of the word in hand; none if a quote stays open or a
backslash comes last. -/
def readWords : Place → List Char → List Char → Option (List (List Char))
  | .between, _, [] => some []
  | .comment, _, [] => some []
  | .inWord, w, [] => some [w]
  | _, _, [] => none
  | .between, w, c :: cs =>
    if isBlank c then readWords .between w cs
    else if c = '#' then readWords .comment w cs
    else if c = '\x22' then readWords .inDouble [] cs
    else if c = '\x27' then readWords .inSingle [] cs
    else if c = '\\' then readWords .afterBackslash [] cs
    else readWords .inWord [c] cs
  | .comment, w, c :: cs => readWords (if c = '\n' then .between else .comment) w cs
  | .inWord, w, c :: cs =>
    if isBlank c then (readWords .between [] cs).map (w :: ·)
    else if c = '\x22' then readWords .inDouble w cs
    else if c = '\x27' then readWords .inSingle w cs
    else if c = '\\' then readWords .afterBackslash w cs
    else readWords .inWord (w ++ [c]) cs
  | .afterBackslash, w, c :: cs => readWords .inWord (if c = '\n' then w else w ++ [c]) cs
  | .inSingle, w, c :: cs =>
    if c = '\x27' then readWords .inWord w cs else readWords .inSingle (w ++ [c]) cs
  | .inDouble, w, c :: cs =>
    if c = '\x22' then readWords .inWord w cs
    else if c = '\\' then readWords .afterBackslashInDouble w cs
    else readWords .inDouble (w ++ [c]) cs
  | .afterBackslashInDouble, w, c :: cs =>
    if c = '\n' then readWords .inDouble w cs
    else if c ∈ ['$','\x60','\x22','\\'] then readWords .inDouble (w ++ [c]) cs
    else readWords .inDouble (w ++ ['\\',c]) cs

def splitWords (line : String) : Option (List String) :=
  (readWords .between [] line.toList).map (·.map String.ofList)

end MatrixHarness.CommandLine
