import Mathlib.Data.List.Nodup
import MatrixHarness.Proofs.Toml.Lines
import MatrixHarness.Settings

/-! # Options

What the options of a document do to settings.  Each sets what it names, so that options with
different names can be taken in any order, and settings do not depend on the order of a document. -/
namespace MatrixHarness.Settings

inductive Takes : String → Toml.Value → (Settings → Settings) → Prop
  | language (text : String) :
    Takes "language" (.string text) fun s => { s with language := some text }
  | testRunner (text : String) :
    Takes "test_runner" (.string text) fun s =>
      { s with testRunner := some (RawText.ofString text) }
  | smp {n : Int} : 0 ≤ n ∧ n < 4294967296 →
    Takes "smp" (.integer n) fun s => { s with smp := some (UInt32.ofNat n.toNat) }
  | fast (b : Bool) : Takes "fast" (.boolean b) fun s => { s with fast := b }

theorem take_ok_iff {name : String} {v : Toml.Value} {s t : Settings} :
    take name v s = .ok t ↔ ∃ change, Takes name v change ∧ change s = t := by
  constructor
  · intro h
    unfold take at h
    by_cases hl : name = "language"
    · subst hl
      cases v <;> simp only [if_true,reduceCtorEq,Except.ok.injEq] at h
      exact ⟨_,.language _,h⟩
    by_cases ht : name = "test_runner"
    · subst ht
      cases v <;> simp only [if_neg hl,if_true,reduceCtorEq,Except.ok.injEq] at h
      exact ⟨_,.testRunner _,h⟩
    by_cases hs : name = "smp"
    · subst hs
      cases v <;> simp only [if_neg hl,if_neg ht,if_true,reduceCtorEq] at h
      split_ifs at h with hn
      exact ⟨_,.smp hn,Except.ok.inj h⟩
    by_cases hf : name = "fast"
    · subst hf
      cases v <;> simp only [if_neg hl,if_neg ht,if_neg hs,if_true,reduceCtorEq,
        Except.ok.injEq] at h
      exact ⟨_,.fast _,h⟩
    simp [hl,ht,hs,hf] at h
  · rintro ⟨change,hc,rfl⟩
    cases hc with
    | smp hn => simp [take,hn]
    | language | testRunner | fast => simp [take]

/-- Options with different names do not touch each other. -/
theorem Takes.comm {a b : String} {v w : Toml.Value} {f g : Settings → Settings}
    (hf : Takes a v f) (hg : Takes b w g) (h : a ≠ b) (s : Settings) : f (g s) = g (f s) := by
  cases hf <;> cases hg <;> first | rfl | contradiction

inductive TakesAll : List (String × Toml.Value) → Settings → Settings → Prop
  | nil (s : Settings) : TakesAll [] s s
  | cons {name : String} {v : Toml.Value} {change : Settings → Settings}
    {ps : List (String × Toml.Value)} {s t : Settings} : Takes name v change →
    TakesAll ps (change s) t → TakesAll ((name,v) :: ps) s t

theorem takeAll_ok_iff {es : Toml.Entries} {s t : Settings} :
    takeAll es s = .ok t ↔ TakesAll es.pairs s t := by
  induction es generalizing s with
  | nil =>
    constructor
    · intro h
      obtain rfl := Except.ok.inj h
      exact .nil s
    · rintro ⟨⟩
      rfl
  | cons e es ih =>
    obtain ⟨key,span,v⟩ := e
    constructor
    · intro h
      rw [takeAll] at h
      split at h
      · rename_i u hu
        obtain ⟨change,hc,rfl⟩ := take_ok_iff.mp hu
        exact .cons hc (ih.mp h)
      · simp at h
    · intro h
      cases h with
      | cons hc hrest =>
        rw [takeAll,take_ok_iff.mpr ⟨_,hc,rfl⟩]
        exact ih.mpr hrest

namespace TakesAll

theorem append {ps qs : List (String × Toml.Value)} {s t u : Settings} (hp : TakesAll ps s t)
    (hq : TakesAll qs t u) : TakesAll (ps ++ qs) s u := by
  induction hp with
  | nil => exact hq
  | cons hc _ ih => exact .cons hc (ih hq)

theorem perm {ps qs : List (String × Toml.Value)} (hp : ps.Perm qs) (hn : (ps.map Prod.fst).Nodup)
    {s t : Settings} (h : TakesAll ps s t) : TakesAll qs s t := by
  induction hp generalizing s with
  | nil => exact h
  | cons p _ ih =>
    cases h with
    | cons hc hrest => exact .cons hc (ih (List.nodup_cons.mp hn).2 hrest)
  | swap p q ps =>
    cases h with
    | cons hf hrest =>
      cases hrest with
      | cons hg hrest =>
        have hne := List.ne_of_not_mem_cons (List.nodup_cons.mp hn).1
        rw [← hf.comm hg hne] at hrest
        exact .cons hg (.cons hf hrest)
  | trans hp _ ih ihq => exact ihq ((hp.map _).nodup_iff.mp hn) (ih hn h)

end TakesAll

/-- The settings that a document holds are those that its options give in any order. -/
theorem ofEntries_ok {es : Toml.Entries} {ps : List (String × Toml.Value)} {t : Settings}
    (hp : ps.Perm es.pairs) (hn : (ps.map Prod.fst).Nodup) (h : TakesAll ps {} t) :
    ofEntries es = .ok t := by
  have hsorted : es.pairs.Perm es.sorted.pairs := (List.mergeSort_perm es _).symm.map _
  exact takeAll_ok_iff.mpr (h.perm (hp.trans hsorted) hn)

end MatrixHarness.Settings
