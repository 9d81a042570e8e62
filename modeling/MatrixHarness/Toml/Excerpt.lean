import MatrixHarness.Toml.Value
import MatrixHarness.Text.Column

/-! # Excerpts

A message about a place in a document, under the line where it begins, which is marked from there
on.  The mark is as long as the place is in bytes, but does not leave the line, and is never
empty. -/
namespace MatrixHarness.Toml

def lastLine (s : List Char) : List Char := (s.reverse.takeWhile (· != '\n')).reverse

def utf8Size (s : List Char) : Nat := s.foldr (fun c n => c.utf8Size + n) 0

def excerpt (text : String) (span : Span) (message : String) : String :=
  let s := text.toList
  let before := s.take (s.length - span.start)
  let here := s.drop (s.length - span.start)
  let marked := here.take (span.start - span.stop)
  let column := (lastLine before).length
  let line := lastLine before ++ here.takeWhile (· != '\n')
  let number := toString (before.count '\n' + 1)
  let gutter := Text.blanks (number.length + 1) ++ "|"
  let marks := max 1 (min (utf8Size marked) (utf8Size line - column))
  "TOML parse error at line " ++ number ++ ", column " ++ toString (column + 1) ++ "\n" ++
    gutter ++ "\n" ++
    number ++ " | " ++ String.ofList line ++ "\n" ++
    gutter ++ Text.blanks (column + 1) ++ String.ofList (List.replicate marks '^') ++ "\n" ++
    message ++ "\n"

end MatrixHarness.Toml
