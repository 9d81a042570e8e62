/-! # Columns

Text filled up with blanks to a least width, counted in characters.  Text that is too wide stays
as it is. -/
namespace MatrixHarness.Text

def blanks (n : Nat) : String := String.ofList (List.replicate n ' ')

def alignLeft (width : Nat) (s : String) : String := s ++ blanks (width - s.length)

def alignRight (width : Nat) (s : String) : String := blanks (width - s.length) ++ s

end MatrixHarness.Text
