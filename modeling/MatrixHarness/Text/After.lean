/-! # What follows a beginning -/
namespace MatrixHarness.Text

/-- What follows, if a list begins as another one goes. -/
def after? {α : Type} [DecidableEq α] : List α → List α → Option (List α)
  | [], s => some s
  | a :: start, b :: s => if a = b then after? start s else none
  | _ :: _, [] => none

theorem after?_eq_some_iff {α : Type} [DecidableEq α] {start s r : List α} :
    after? start s = some r ↔ s = start ++ r := by
  fun_induction after? start s with
  | case1 s => simp [eq_comm]
  | case2 a start s ih => simp [ih]
  | case3 a start b s h => simp [Ne.symm h]
  | case4 a start => simp

end MatrixHarness.Text
