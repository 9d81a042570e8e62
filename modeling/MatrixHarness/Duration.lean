import MatrixHarness.Number.Rounding

/-! # Durations

A span of time in whole nanoseconds, and its text: the largest unit that fits at least once, with
two places, a half going to the even neighbour. -/
namespace MatrixHarness

structure Duration where
  nanoseconds : Nat
  deriving DecidableEq, Inhabited

namespace Duration

def ofParts (seconds nanoseconds : Nat) : Duration := ⟨seconds * 1000000000 + nanoseconds⟩

/-- The unit is chosen before rounding: 999.996 µs is shown as 1000.00 µs. -/
def unit (d : Duration) : Nat × String :=
  if d.nanoseconds ≥ 1000000000 then (1000000000,"s")
  else if d.nanoseconds ≥ 1000000 then (1000000,"ms")
  else if d.nanoseconds ≥ 1000 then (1000,"µs")
  else (1,"ns")

def hundredths (n : Nat) : String :=
  toString (n / 100) ++ "." ++ (if n % 100 < 10 then "0" else "") ++ toString (n % 100)

def text (d : Duration) : String :=
  hundredths (Number.nearestEven (100 * d.nanoseconds) d.unit.1) ++ d.unit.2

end Duration
end MatrixHarness
