import Mathlib.Tactic.SplitIfs
import MatrixHarness.Number.Signed

/-! # Numerals

A text is read as a signed number of 64 bits just if it writes that number down: an optional sign,
and digits behind it.  No digit leads past the bounds unless the whole number lies outside, since a
further digit never brings it nearer to zero. -/
namespace MatrixHarness.Number

inductive Numeral : List Char → Int → Prop
  | unsigned {ds : List Char} : ds ≠ [] → (∀ d ∈ ds, d.isDigit = true) →
    Numeral ds (Nat.ofDigitChars 10 ds 0)
  | plus {ds : List Char} : ds ≠ [] → (∀ d ∈ ds, d.isDigit = true) →
    Numeral ('+' :: ds) (Nat.ofDigitChars 10 ds 0)
  | minus {ds : List Char} : ds ≠ [] → (∀ d ∈ ds, d.isDigit = true) →
    Numeral ('-' :: ds) (-Nat.ofDigitChars 10 ds 0)

theorem numeral_toDigits (n : Nat) : Numeral (Nat.toDigits 10 n) n := by
  have hd : ∀ d ∈ Nat.toDigits 10 n, d.isDigit = true := fun _ =>
    Nat.isDigit_of_mem_toDigits (by decide) (by decide)
  have h := Numeral.unsigned Nat.toDigits_ne_nil hd
  rwa [Nat.ofDigitChars_ten_toDigits] at h

theorem le_ofDigitChars (ds : List Char) (n : Nat) : n ≤ Nat.ofDigitChars 10 ds n := by
  induction ds generalizing n with
  | nil => exact Nat.le_refl n
  | cons d ds ih =>
    rw [Nat.ofDigitChars_cons]
    exact Nat.le_trans (by omega) (ih _)

def signed (negative : Bool) (n : Nat) : Int := if negative then -n else n

theorem takeDigits_ok_iff {negative : Bool} {n : Nat} {ds : List Char} {m : Int}
    (hn : least ≤ signed negative n ∧ signed negative n ≤ greatest) :
    takeDigits negative (signed negative n) ds = .ok m ↔
      (∀ d ∈ ds, d.isDigit = true) ∧ signed negative (Nat.ofDigitChars 10 ds n) = m ∧
        least ≤ m ∧ m ≤ greatest := by
  induction ds generalizing n with
  | nil =>
    simp only [takeDigits,Except.ok.injEq,List.not_mem_nil,false_implies,implies_true,
      Nat.ofDigitChars_nil,true_and]
    constructor
    · rintro rfl
      exact ⟨rfl,hn⟩
    · exact And.left
  | cons d ds ih =>
    by_cases hd : d.isDigit = true
    · have hlow : '0'.toNat ≤ d.toNat := by
        simp only [Char.isDigit,Bool.and_eq_true,decide_eq_true_eq] at hd
        exact hd.1
      have hnext : (if negative then 10 * signed negative n - ((d.toNat : Int) - '0'.toNat)
          else 10 * signed negative n + ((d.toNat : Int) - '0'.toNat)) =
          signed negative (10 * n + (d.toNat - '0'.toNat)) := by
        cases negative <;> simp only [signed,if_true,if_false,Bool.false_eq_true] <;> omega
      have hmore := le_ofDigitChars ds (10 * n + (d.toNat - '0'.toNat))
      simp only [takeDigits,hd,if_true,hnext,List.forall_mem_cons,true_and,Nat.ofDigitChars_cons]
      generalize 10 * n + (d.toNat - '0'.toNat) = next at hmore ⊢
      split_ifs with hlarge hsmall
      · -- a number that is too large only grows
        refine iff_of_false (by simp) ?_
        rintro ⟨-,rfl,-,hgreatest⟩
        cases negative <;> simp only [signed,if_true,if_false,Bool.false_eq_true,greatest] at * <;>
          omega
      · refine iff_of_false (by simp) ?_
        rintro ⟨-,rfl,hleast,-⟩
        cases negative <;> simp only [signed,if_true,if_false,Bool.false_eq_true,least] at * <;>
          omega
      · exact ih ⟨by omega,by omega⟩
    · simp [takeDigits,hd]

section numeral

variable {ds : List Char} {n : Int}

theorem numeral_plus_iff : Numeral ('+' :: ds) n ↔
    ds ≠ [] ∧ (∀ d ∈ ds, d.isDigit = true) ∧ signed false (Nat.ofDigitChars 10 ds 0) = n := by
  constructor
  · intro h
    cases h with
    | unsigned _ hd => exact absurd (hd '+' (by simp)) (by decide)
    | plus hne hd => exact ⟨hne,hd,rfl⟩
  · rintro ⟨hne,hd,rfl⟩
    exact .plus hne hd

theorem numeral_minus_iff : Numeral ('-' :: ds) n ↔
    ds ≠ [] ∧ (∀ d ∈ ds, d.isDigit = true) ∧ signed true (Nat.ofDigitChars 10 ds 0) = n := by
  constructor
  · intro h
    cases h with
    | unsigned _ hd => exact absurd (hd '-' (by simp)) (by decide)
    | minus hne hd => exact ⟨hne,hd,rfl⟩
  · rintro ⟨hne,hd,rfl⟩
    exact .minus hne hd

theorem numeral_unsigned_iff (hp : ∀ cs, ds ≠ '+' :: cs) (hm : ∀ cs, ds ≠ '-' :: cs) :
    Numeral ds n ↔
      ds ≠ [] ∧ (∀ d ∈ ds, d.isDigit = true) ∧ signed false (Nat.ofDigitChars 10 ds 0) = n := by
  constructor
  · intro h
    cases h with
    | unsigned hne hd => exact ⟨hne,hd,rfl⟩
    | plus => exact absurd rfl (hp _)
    | minus => exact absurd rfl (hm _)
  · rintro ⟨hne,hd,rfl⟩
    exact .unsigned hne hd

theorem takeDigits_zero (negative : Bool) (hne : ds ≠ []) : takeDigits negative 0 ds = .ok n ↔
    (ds ≠ [] ∧ (∀ d ∈ ds, d.isDigit = true) ∧
      signed negative (Nat.ofDigitChars 10 ds 0) = n) ∧ least ≤ n ∧ n ≤ greatest := by
  have hzero : signed negative 0 = 0 := by cases negative <;> rfl
  have hrange : least ≤ signed negative 0 ∧ signed negative 0 ≤ greatest := by
    rw [hzero]
    decide
  have h := @takeDigits_ok_iff negative 0 ds n hrange
  rw [hzero] at h
  rw [h,and_iff_right hne,and_assoc]

end numeral

/-- What is read is what is written down, if it is in range. -/
theorem readSigned_ok_iff {s : String} {n : Int} :
    readSigned s = .ok n ↔ Numeral s.toList n ∧ least ≤ n ∧ n ≤ greatest := by
  rw [readSigned]
  split
  · simp [*,numeral_unsigned_iff]
  · simp [*,numeral_plus_iff]
  · simp [*,numeral_minus_iff]
  · rename_i hne hs
    rw [hs,numeral_plus_iff,takeDigits_zero false hne]
  · rename_i hne hs
    rw [hs,numeral_minus_iff,takeDigits_zero true hne]
  · rename_i hne _ _ hp hm
    rw [numeral_unsigned_iff hp hm,takeDigits_zero false hne]

end MatrixHarness.Number
