/-! # Classes of characters

A class is a set of code points, kept as the increasing list of the points where membership
changes; the first change is from outside to inside.  A code point is inside when the number of
changes at or below it is odd. -/
namespace MatrixHarness.Text

structure CharClass where
  changes : List Nat

namespace CharClass

def contains (k : CharClass) (c : Char) : Bool :=
  k.changes.countP (fun b => b ≤ c.toNat) % 2 == 1

end CharClass
end MatrixHarness.Text
