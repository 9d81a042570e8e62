/-! # Rounding -/
namespace MatrixHarness.Number

/-- The whole number nearest to a quotient; of two, the even one. -/
def nearestEven (num den : Nat) : Nat :=
  let q := num / den
  let twice := 2 * (num % den)
  if twice < den then q
  else if den < twice then q + 1
  else q + q % 2

theorem nearestEven_mul (q : Nat) {den : Nat} (h : 0 < den) : nearestEven (q * den) den = q := by
  simp [nearestEven,Nat.mul_div_cancel q h,h]

/-- Never more than half a unit away. -/
theorem nearestEven_close (num : Nat) {den : Nat} (h : 0 < den) :
    2 * (nearestEven num den * den) ≤ 2 * num + den ∧
      2 * num ≤ 2 * (nearestEven num den * den) + den := by
  have hd : den * (num / den) + num % den = num := Nat.div_add_mod num den
  have hm : num % den < den := Nat.mod_lt num h
  have hc : num / den * den = den * (num / den) := Nat.mul_comm _ _
  unfold nearestEven
  by_cases h1 : 2 * (num % den) < den
  · simp only [h1,if_true]; omega
  · by_cases h2 : den < 2 * (num % den)
    · simp only [h1,h2,if_true,if_false,Nat.add_mul,Nat.one_mul]; omega
    · have he : num / den % 2 = 0 ∨ num / den % 2 = 1 := by omega
      simp only [h1,h2,if_false]
      rcases he with he | he <;> simp only [he,Nat.add_mul] <;> omega

end MatrixHarness.Number
