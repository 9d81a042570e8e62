import MatrixHarness.Text.Printable
import MatrixHarness.Text.Raw

/-! # Quoted text

Text between double quotes for a message: whatever would break the line, end the quotes or not be
seen is written by an escape.  Bytes that belong to no character are written by their number. -/
namespace MatrixHarness.Text

def hexDigits (n : Nat) : List Char := Nat.toDigits 16 n

def byteDigits (b : UInt8) : List Char :=
  let ds := (hexDigits b.toNat).map Char.toUpper
  List.replicate (2 - ds.length) '0' ++ ds

def escapeChar (c : Char) : List Char :=
  if c = '\x00' then ['\\','0']
  else if c = '\t' then ['\\','t']
  else if c = '\r' then ['\\','r']
  else if c = '\n' then ['\\','n']
  else if c = '\\' || c = '\x22' then ['\\',c]
  else if isPrintable c then [c]
  else ['\\','u','\x7b'] ++ hexDigits c.toNat ++ ['\x7d']

def quoted (s : String) : String :=
  String.ofList ('\x22' :: s.toList.flatMap escapeChar ++ ['\x22'])

end MatrixHarness.Text

namespace MatrixHarness.RawText

def Piece.quoted : Piece → List Char
  | .char c => Text.escapeChar c
  | .junk bytes => bytes.flatMap fun b => '\\' :: 'x' :: Text.byteDigits b

/-- Raw text between double quotes; text that is UTF-8 is quoted as text. -/
def quoted (t : RawText) : String :=
  String.ofList ('\x22' :: (pieces t.bytes).flatMap Piece.quoted ++ ['\x22'])

end MatrixHarness.RawText
