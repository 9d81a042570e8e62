import Mathlib.Data.List.Basic
import MatrixHarness.Toml.Document
import MatrixHarness.Toml.Written

/-! # Written numbers and truth values are read back

The digits of a number are no date and no time, since no mark stands among them, and no zero stands
in front of others; so they are read as an integer, and the integer is the number. -/
namespace MatrixHarness.Toml

/-! ## Digits -/

section digits

variable {ds : List Char} (h : ∀ c ∈ ds, c.isDigit = true)
include h

theorem isScalarChar_of_digits : ∀ c ∈ ds, isScalarChar c = true := by
  intro c hc
  simp [isScalarChar,Char.isAlphanum,h c hc]

theorem digits?_of_digits (hne : ds ≠ []) : digits? Char.isDigit ds = some ds := by
  induction ds with
  | nil => exact absurd rfl hne
  | cons c ds ih =>
    have hc := h c (by simp)
    have hds : ∀ d ∈ ds, d.isDigit = true := fun d hd => h d (by simp [hd])
    cases ds with
    | nil => simp [digits?,hc]
    | cons d ds =>
      have hd : d ≠ '_' := by
        rintro rfl
        exact absurd (hds '_' (by simp)) (by decide)
      rw [digits?,if_pos hc,ih hds (by simp)]
      · rfl
      · simp
      · exact fun _ hr => hd (List.cons.inj hr).1

theorem numberOf_of_digits : numberOf 10 ds = Nat.ofDigitChars 10 ds 0 := by
  rw [numberOf,Nat.ofDigitChars_eq_foldl]
  refine List.foldl_ext _ _ _ fun n c hc => ?_
  rw [if_pos (h c hc)]
  rfl

theorem two?_of_digits (mark : Char) (hm : mark.isDigit = false) (low high : Nat) :
    two? mark low high ds = none := by
  cases ds with
  | nil => rfl
  | cons c ds =>
    have hc : c ≠ mark := by
      rintro rfl
      simp [hm] at h
    rw [two?,if_neg hc]

theorem splitSign_of_digits : splitSign ds = (false,ds) := by
  rw [splitSign.eq_def]
  split
  · exact absurd (h '-' (by simp)) (by decide)
  · exact absurd (h '+' (by simp)) (by decide)
  · rfl

theorem isMoment_of_digits : isMoment ds = false := by
  have hdrop (n : Nat) : ∀ c ∈ ds.drop n, c.isDigit = true := fun c hc =>
    h c (List.mem_of_mem_drop hc)
  have hdate : skipDate? ds = none := by
    rw [skipDate?,fixed?]
    dsimp only
    split_ifs
    · simp [two?_of_digits (hdrop 4) '-' rfl]
    · rfl
  have htime : skipTime? ds = none := by
    rw [skipTime?,fixed?]
    dsimp only
    split_ifs
    · by_cases hlate : numberOf 10 (ds.take 2) ≤ 23
      · simp [hlate,two?_of_digits (hdrop 2) ':' rfl]
      · simp [hlate]
    · rfl
  rw [isMoment,hdate,htime]
  rfl

end digits

theorem head?_toDigits {n : Nat} (hn : 0 < n) : (Nat.toDigits 10 n).head? ≠ some '0' := by
  induction n using Nat.strongRecOn with
  | ind n ih =>
    rcases Nat.lt_or_ge n 10 with hlow | hhigh
    · rw [Nat.toDigits_of_lt_base hlow]
      simp
      omega
    · rw [Nat.toDigits_of_base_le (by decide) hhigh]
      have hfront := ih (n / 10) (by omega) (by omega)
      have hne : Nat.toDigits 10 (n / 10) ≠ [] := Nat.toDigits_ne_nil
      rwa [List.head?_append_of_ne_nil _ hne]

theorem isDigit_of_mem_writeNat {n : Nat} : ∀ c ∈ writeNat n, c.isDigit = true := fun _ =>
  Nat.isDigit_of_mem_toDigits (by decide) (by decide)

theorem decimal?_writeNat (n : Nat) : decimal? (writeNat n) = some (writeNat n) := by
  have hne : writeNat n ≠ [] := Nat.toDigits_ne_nil
  rw [decimal?,digits?_of_digits isDigit_of_mem_writeNat hne]
  split
  · rename_i hds
    rcases Nat.eq_zero_or_pos n with rfl | hn
    · simp [writeNat] at hds
    · have hhead := head?_toDigits hn
      rw [← writeNat,Option.some.inj hds] at hhead
      exact absurd rfl hhead
  · rfl

theorem integer?_writeNat {n : Nat} (h : n ≤ 9223372036854775807) :
    integer? (writeNat n) = some (n : Int) := by
  have hdigits := @isDigit_of_mem_writeNat n
  have hvalue : numberOf 10 (writeNat n) = n := by
    rw [numberOf_of_digits hdigits,writeNat,Nat.ofDigitChars_ten_toDigits]
  have hrange : inRange n = true := by
    simp only [inRange,Bool.and_eq_true,decide_eq_true_eq]
    omega
  -- no letter of another base follows a zero
  have hletter {c d : Char} {r : List Char} (hd : d.isDigit = false) :
      writeNat n ≠ c :: d :: r := by
    intro hw
    simp [hw,hd] at hdigits
  rw [integer?.eq_def]
  split
  · exact absurd ‹_› (hletter rfl)
  · exact absurd ‹_› (hletter rfl)
  · exact absurd ‹_› (hletter rfl)
  · simp [splitSign_of_digits hdigits,decimal?_writeNat,hvalue,hrange]

theorem scalar?_writeNat {n : Nat} (h : n ≤ 9223372036854775807) :
    scalar? (writeNat n) = some (.integer n) := by
  have hdigits := @isDigit_of_mem_writeNat n
  have hword {c : Char} {w : List Char} (hc : c.isDigit = false) : writeNat n ≠ c :: w := by
    intro hw
    simp [hw,hc] at hdigits
  rw [scalar?,if_neg (hword rfl),if_neg (hword rfl),isMoment_of_digits hdigits,if_neg (by decide),
    integer?_writeNat h]

theorem scalar?_writeBoolean (b : Bool) : scalar? (writeBoolean b) = some (.boolean b) := by
  cases b <;> simp [scalar?,writeBoolean]

/-! ## Values -/

theorem run_line {w : List Char} (h : ∀ c ∈ w, isScalarChar c = true) (r : List Char) :
    run (w ++ '\n' :: r) = (w,'\n' :: r) := by
  have hn : isScalarChar '\n' = false := by decide
  simp [run,List.takeWhile_append_of_pos h,List.dropWhile_append_of_pos h,hn]

/-- Neither a bracket, a brace nor a quote stands in a run. -/
theorem value?_run {w : List Char} (h : ∀ c ∈ w, isScalarChar c = true) (hne : w ≠ [])
    (depth : Nat) (r : List Char) :
    value? depth (w ++ '\n' :: r) = (scalar? w).map fun v => (v,'\n' :: r) := by
  obtain ⟨c,w,rfl⟩ := List.exists_cons_of_ne_nil hne
  have hmark {d : Char} (hd : isScalarChar d = false) : c ≠ d := by
    rintro rfl
    simp [hd] at h
  have hrun := run_line h r
  rw [List.cons_append] at hrun ⊢
  rw [value?.eq_def]
  split
  · rename_i hd
    exact absurd (List.cons.inj hd).1 (hmark (by decide))
  · rename_i hd
    exact absurd (List.cons.inj hd).1 (hmark (by decide))
  · split
    · rename_i hd
      exact absurd (List.cons.inj hd).1 (hmark (by decide))
    · rename_i hd
      exact absurd (List.cons.inj hd).1 (hmark (by decide))
    · simp only [hrun]

theorem value?_writeNat {n : Nat} (h : n ≤ 9223372036854775807) (depth : Nat) (r : List Char) :
    value? depth (writeNat n ++ '\n' :: r) = some (.integer n,'\n' :: r) := by
  rw [value?_run (isScalarChar_of_digits isDigit_of_mem_writeNat) Nat.toDigits_ne_nil,
    scalar?_writeNat h,Option.map_some]

theorem value?_writeBoolean (b : Bool) (depth : Nat) (r : List Char) :
    value? depth (writeBoolean b ++ '\n' :: r) = some (.boolean b,'\n' :: r) := by
  have hrun : ∀ c ∈ writeBoolean b, isScalarChar c = true := by
    cases b <;> simp [writeBoolean] <;> decide
  have hne : writeBoolean b ≠ [] := by cases b <;> simp [writeBoolean]
  rw [value?_run hrun hne,scalar?_writeBoolean,Option.map_some]

end MatrixHarness.Toml
