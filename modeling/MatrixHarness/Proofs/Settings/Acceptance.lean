import Mathlib.Data.List.Nodup
import Mathlib.Data.Option.Basic
import MatrixHarness.Proofs.Settings.Options
import MatrixHarness.Proofs.Toml.Tables

/-! # Acceptance

Which documents hold settings, which settings they hold, and what is told of the others.  All of it
rests on the contents of the document alone: neither the order of its keys nor the manner in which
they are written has a part in it. -/
namespace MatrixHarness

namespace Toml

/-- Values that differ at most in how they are written.  Dates and times are not told apart. -/
inductive Value.Alike : Value → Value → Prop
  | string (text : String) : Alike (.string text) (.string text)
  | integer (n : Int) : Alike (.integer n) (.integer n)
  | real (x : Real) : Alike (.real x) (.real x)
  | boolean (b : Bool) : Alike (.boolean b) (.boolean b)
  | moment (text other : String) : Alike (.moment text) (.moment other)
  | array {headed begun : Bool} {items others : List Value} : List.Forall₂ Alike items others →
    Alike (.array headed items) (.array begun others)
  | table {origin cause : Origin} {es fs : Entries} :
    (∀ name, Option.Rel Alike (Entries.find? name es) (Entries.find? name fs)) →
    Alike (.table origin es) (.table cause fs)

/-- Tables with the same keys and alike values, in whatever order. -/
def Entries.Alike (es fs : Entries) : Prop :=
  ∀ name, Option.Rel Value.Alike (es.find? name) (fs.find? name)

end Toml

namespace Settings

open Toml

def optionNames : List String := ["language","test_runner","smp","fast"]

/-- Each key of a document is an option, and has a value of its kind. -/
structure Documented (es : Entries) : Prop where
  known : ∀ name ∈ es.names, name ∈ optionNames
  language : ∀ v, es.find? "language" = some v → ∃ text, v = .string text
  testRunner : ∀ v, es.find? "test_runner" = some v → ∃ text, v = .string text
  smp : ∀ v, es.find? "smp" = some v → ∃ n : Int, v = .integer n ∧ 0 ≤ n ∧ n ≤ 4294967295
  fast : ∀ v, es.find? "fast" = some v → ∃ b, v = .boolean b

/-- What an option is behind a document: what the value under its key is for it, or else what it was
before. -/
def Gives {α : Type} (meaning : Value → α → Prop) (before : α) : Option Value → α → Prop
  | none, x => x = before
  | some v, x => meaning v x

/-- Settings behind a document hold its values, and the settings before where it has none. -/
structure Holds (es : Entries) (before s : Settings) : Prop where
  language : Gives (fun v x => ∃ text, v = .string text ∧ x = some text) before.language
    (es.find? "language") s.language
  testRunner : Gives (fun v x => ∃ text, v = .string text ∧ x = some (RawText.ofString text))
    before.testRunner (es.find? "test_runner") s.testRunner
  smp : Gives (fun v x => ∃ n : UInt32, v = .integer n.toNat ∧ x = some n) before.smp
    (es.find? "smp") s.smp
  fast : Gives (fun v x => v = .boolean x) before.fast (es.find? "fast") s.fast

/-- What is wrong with a key and its value. -/
inductive Offends : String → Value → Mismatch → Prop
  | unknown {name : String} {v : Value} : name ∉ optionNames →
    Offends name v (.unknownOption name)
  | language {v : Value} : (∀ text, v ≠ .string text) →
    Offends "language" v (.wrongKind v .text)
  | testRunner {v : Value} : (∀ text, v ≠ .string text) →
    Offends "test_runner" v (.wrongKind v .path)
  | smp {v : Value} : (∀ n, v ≠ .integer n) → Offends "smp" v (.wrongKind v .count)
  | range {n : Int} : n < 0 ∨ 4294967295 < n → Offends "smp" (.integer n) (.outOfRange n)
  | fast {v : Value} : (∀ b, v ≠ .boolean b) → Offends "fast" v (.wrongKind v .flag)

/-- What is wrong with the key that comes first in the order of keys among those with which
something is wrong, and where it is told: at the key if that is no option, and else at the value. -/
structure FirstOffence (es : Entries) (name : String) (what : Mismatch) (place : Span) : Prop where
  stands : ∃ key span v, (key,span,v) ∈ es ∧ key.name = name ∧ Offends name v what ∧
    place = if name ∈ optionNames then span else key.span
  first : ∀ e ∈ es, ∀ other, Offends e.1.name e.2.2 other → name ≤ e.1.name

/-! ## Single options -/

theorem take_error_iff {name : String} {v : Value} {s : Settings} {m : Mismatch} :
    take name v s = .error m ↔ Offends name v m := by
  constructor
  · intro h
    unfold take at h
    by_cases hl : name = "language"
    · subst hl
      cases v <;> simp only [if_true,reduceCtorEq,Except.error.injEq] at h <;>
        exact h ▸ .language (by simp)
    by_cases ht : name = "test_runner"
    · subst ht
      cases v <;> simp only [if_neg hl,if_true,reduceCtorEq,Except.error.injEq] at h <;>
        exact h ▸ .testRunner (by simp)
    by_cases hs : name = "smp"
    · subst hs
      cases v <;> simp only [if_neg hl,if_neg ht,if_true,Except.error.injEq] at h
      case integer n =>
        split_ifs at h with hn
        exact Except.error.inj h ▸ .range (by omega)
      all_goals exact h ▸ .smp (by simp)
    by_cases hf : name = "fast"
    · subst hf
      cases v <;> simp only [if_neg hl,if_neg ht,if_neg hs,if_true,reduceCtorEq,
        Except.error.injEq] at h <;> exact h ▸ .fast (by simp)
    simp only [if_neg hl,if_neg ht,if_neg hs,if_neg hf,Except.error.injEq] at h
    exact h ▸ .unknown (by simp [optionNames,hl,ht,hs,hf])
  · intro h
    cases h with
    | unknown hn =>
      simp only [optionNames,List.mem_cons,List.not_mem_nil,or_false,not_or] at hn
      simp [take,hn]
    | @range n hn =>
      have hr : ¬(0 ≤ n ∧ n < 4294967296) := by omega
      simp [take,hr]
    | language hv | testRunner hv | smp hv | fast hv => cases v <;> simp_all [take]

variable {name : String} {v w : Value} {m : Mismatch} {change : Settings → Settings}

theorem takes_or_offends (name : String) (v : Value) :
    (∃ change, Takes name v change) ∨ ∃ m, Offends name v m := by
  cases h : take name v {} with
  | error m => exact .inr ⟨m,take_error_iff.mp h⟩
  | ok t =>
    obtain ⟨change,hc,-⟩ := take_ok_iff.mp h
    exact .inl ⟨change,hc⟩

theorem Takes.not_offends (hc : Takes name v change) : ¬Offends name v m := by
  intro ho
  have hok : take name v {} = .ok (change {}) := take_ok_iff.mpr ⟨change,hc,rfl⟩
  rw [take_error_iff.mpr ho] at hok
  cases hok

theorem Takes.known (hc : Takes name v change) : name ∈ optionNames := by
  cases hc <;> simp [optionNames]

theorem Takes.kind (hc : Takes name v change) :
    (name = "language" ∨ name = "test_runner") ∧ (∃ text, v = .string text) ∨
      name = "smp" ∧ (∃ n : Int, v = .integer n ∧ 0 ≤ n ∧ n ≤ 4294967295) ∨
      name = "fast" ∧ ∃ b, v = .boolean b := by
  cases hc with
  | language text => exact .inl ⟨.inl rfl,text,rfl⟩
  | testRunner text => exact .inl ⟨.inr rfl,text,rfl⟩
  | @smp n hn => exact .inr (.inl ⟨rfl,n,rfl,hn.1,by omega⟩)
  | fast b => exact .inr (.inr ⟨rfl,b,rfl⟩)

theorem Offends.isOfKey_iff (h : Offends name v m) : m.isOfKey = true ↔ name ∉ optionNames := by
  cases h with
  | unknown hn => simpa [Mismatch.isOfKey] using hn
  | _ => simp [Mismatch.isOfKey,optionNames]

/-! ## Accepted documents -/

section documents

variable {es : Entries}

theorem takes_found (h : ∀ e ∈ es, ∃ change, Takes e.1.name e.2.2 change)
    (hv : es.find? name = some v) : ∃ change, Takes name v change := by
  obtain ⟨key,span,rfl,hm⟩ := Entries.mem_of_find? hv
  exact h _ hm

/-- A document is as documented if each of its entries can be taken. -/
theorem documented_iff (hn : es.names.Nodup) :
    Documented es ↔ ∀ e ∈ es, ∃ change, Takes e.1.name e.2.2 change := by
  constructor
  · rintro h ⟨⟨name,place⟩,span,v⟩ he
    have hfind : es.find? name = some v := Entries.find?_of_mem hn he
    have hname : name ∈ optionNames := h.known name (Entries.mem_names he)
    simp only [optionNames,List.mem_cons,List.not_mem_nil,or_false] at hname
    rcases hname with rfl | rfl | rfl | rfl
    · obtain ⟨text,rfl⟩ := h.language v hfind
      exact ⟨_,.language text⟩
    · obtain ⟨text,rfl⟩ := h.testRunner v hfind
      exact ⟨_,.testRunner text⟩
    · obtain ⟨n,rfl,hn⟩ := h.smp v hfind
      exact ⟨_,.smp (by omega)⟩
    · obtain ⟨b,rfl⟩ := h.fast v hfind
      exact ⟨_,.fast b⟩
  · intro h
    constructor
    case known =>
      intro name hname
      obtain ⟨e,he,rfl⟩ := List.mem_map.mp hname
      obtain ⟨_,hc⟩ := h e he
      exact hc.known
    all_goals
      intro v hv
      obtain ⟨_,hc⟩ := takes_found h hv
      simpa using hc.kind

theorem TakesAll.total {ps : List (String × Value)}
    (h : ∀ p ∈ ps, ∃ change, Takes p.1 p.2 change) (s : Settings) : ∃ t, TakesAll ps s t := by
  induction ps generalizing s with
  | nil => exact ⟨s,.nil s⟩
  | cons p ps ih =>
    obtain ⟨change,hc⟩ := h p (by simp)
    obtain ⟨t,ht⟩ := ih (fun q hq => h q (by simp [hq])) (change s)
    exact ⟨t,.cons hc ht⟩

theorem TakesAll.takes {ps : List (String × Value)} {s t : Settings} (h : TakesAll ps s t) :
    ∀ p ∈ ps, ∃ change, Takes p.1 p.2 change := by
  induction h with
  | nil => simp
  | cons hc _ ih => exact List.forall_mem_cons.mpr ⟨⟨_,hc⟩,ih⟩

theorem Holds.cons {key : Key} {span : Span} {s t : Settings} (hc : Takes key.name v change)
    (hnew : es.find? key.name = none) (h : Holds es (change s) t) :
    Holds ((key,span,v) :: es) s t := by
  obtain ⟨name,place⟩ := key
  obtain ⟨hl,ht,hs,hf⟩ := h
  cases hc with
  | language text =>
    rw [hnew] at hl
    exact ⟨⟨text,rfl,hl⟩,ht,hs,hf⟩
  | testRunner text =>
    rw [hnew] at ht
    exact ⟨hl,⟨text,rfl,ht⟩,hs,hf⟩
  | @smp n hn =>
    rw [hnew] at hs
    have hback : ((UInt32.ofNat n.toNat).toNat : Int) = n := by
      rw [UInt32.toNat_ofNat']
      omega
    exact ⟨hl,ht,⟨_,congrArg Value.integer hback.symm,hs⟩,hf⟩
  | fast b =>
    rw [hnew] at hf
    exact ⟨hl,ht,hs,congrArg Value.boolean hf.symm⟩

theorem TakesAll.holds (hn : es.names.Nodup) {s t : Settings} (h : TakesAll es.pairs s t) :
    Holds es s t := by
  induction es generalizing s with
  | nil =>
    cases h
    exact ⟨rfl,rfl,rfl,rfl⟩
  | cons e es ih =>
    obtain ⟨key,span,v⟩ := e
    obtain ⟨hnew,hn⟩ := List.nodup_cons.mp hn
    cases h with
    | cons hc hrest => exact .cons hc (Entries.find?_eq_none_iff.mpr hnew) (ih hn hrest)

theorem sorted_pairs_perm (es : Entries) : es.sorted.pairs.Perm es.pairs :=
  (List.mergeSort_perm es _).map _

theorem ofEntries_ok_iff (hn : es.names.Nodup) {t : Settings} :
    ofEntries es = .ok t ↔ TakesAll es.pairs {} t := by
  rw [← Entries.names_pairs] at hn
  constructor
  · intro h
    have hperm := sorted_pairs_perm es
    exact (takeAll_ok_iff.mp h).perm hperm ((hperm.map _).nodup_iff.mpr hn)
  · exact ofEntries_ok (.refl _) hn

/-! ## Rejected documents -/

/-- The entries in front of the first offence can all be taken. -/
theorem takeAll_error {s : Settings} {place : Span} (h : takeAll es s = .error (m,place)) :
    ∃ before key span v after, es = before ++ (key,span,v) :: after ∧
      (∀ e ∈ before, ∃ change, Takes e.1.name e.2.2 change) ∧ Offends key.name v m ∧
      place = if key.name ∈ optionNames then span else key.span := by
  induction es generalizing s with
  | nil => simp [takeAll] at h
  | cons e es ih =>
    obtain ⟨key,span,v⟩ := e
    rw [takeAll] at h
    split at h
    · rename_i t ht
      obtain ⟨change,hc,-⟩ := take_ok_iff.mp ht
      obtain ⟨before,other,there,w,after,rfl,hbefore,ho,hplace⟩ := ih h
      refine ⟨(key,span,v) :: before,other,there,w,after,rfl,?_,ho,hplace⟩
      exact List.forall_mem_cons.mpr ⟨⟨change,hc⟩,hbefore⟩
    · rename_i n hm
      have ho := take_error_iff.mp hm
      obtain ⟨rfl,rfl⟩ := Prod.mk.inj (Except.error.inj h)
      refine ⟨[],key,span,v,es,rfl,by simp,ho,?_⟩
      by_cases hk : key.name ∈ optionNames <;> simp [ho.isOfKey_iff,hk]

theorem ofEntries_error {place : Span} (h : ofEntries es = .error (m,place)) :
    ∃ name, FirstOffence es name m place := by
  obtain ⟨before,key,span,v,after,hes,hbefore,ho,hplace⟩ := takeAll_error h
  have hmem (e : Key × Span × Value) : e ∈ es ↔ e ∈ before ++ (key,span,v) :: after := by
    rw [← hes]
    exact List.mem_mergeSort.symm
  refine ⟨key.name,⟨key,span,v,(hmem _).mpr (by simp),rfl,ho,hplace⟩,fun e he other hother => ?_⟩
  have hsorted : es.sorted.Pairwise fun a b => a.1.name ≤ b.1.name := pairwise_sorted _ es
  rw [hes] at hsorted
  rcases List.mem_append.mp ((hmem e).mp he) with he | he
  · obtain ⟨_,hc⟩ := hbefore e he
    exact absurd hother hc.not_offends
  · rcases List.mem_cons.mp he with rfl | he
    · exact String.le_refl _
    · exact (List.pairwise_cons.mp (List.pairwise_append.mp hsorted).2.1).1 e he

end documents

/-! ## Documents with the same contents -/

section alike

variable {es fs : Entries}

theorem Takes.eq_of_alike (hc : Takes name v change) (h : v.Alike w) : v = w := by
  cases hc <;> cases h <;> rfl

theorem Takes.of_alike (hc : Takes name w change) (h : v.Alike w) : Takes name v change := by
  cases h with
  | string | integer | real | boolean => exact hc
  | moment | array | table => cases hc

theorem offends_alike (h : v.Alike w) : (∃ m, Offends name v m) ↔ ∃ m, Offends name w m := by
  constructor
  · rintro ⟨m,hm⟩
    refine (takes_or_offends name w).resolve_left ?_
    rintro ⟨change,hc⟩
    exact (hc.of_alike h).not_offends hm
  · rintro ⟨m,hm⟩
    refine (takes_or_offends name v).resolve_left ?_
    rintro ⟨change,hc⟩
    rw [hc.eq_of_alike h] at hc
    exact hc.not_offends hm

theorem Offends.unique {n : Mismatch} (hm : Offends name v m) (hn : Offends name v n) : m = n := by
  have htake : take name v {} = .error m := take_error_iff.mpr hm
  rw [take_error_iff.mpr hn] at htake
  exact (Except.error.inj htake).symm

/-- Of alike values the same is told. -/
theorem Offends.text_eq {n : Mismatch} (hv : Offends name v m) (hw : Offends name w n)
    (h : v.Alike w) : m.text = n.text := by
  cases h with
  | string | integer | real | boolean => rw [hv.unique hw]
  | moment | array | table =>
    have hm : take name _ {} = .error m := take_error_iff.mpr hv
    have hn : take name _ {} = .error n := take_error_iff.mpr hw
    simp only [take] at hm hn
    split_ifs at hm hn <;>
    · obtain rfl := Except.error.inj hm
      obtain rfl := Except.error.inj hn
      rfl

theorem mem_pairs (hn : es.names.Nodup) : (name,v) ∈ es.pairs ↔ es.find? name = some v := by
  constructor
  · intro h
    obtain ⟨⟨key,span,w⟩,he,hpair⟩ := List.mem_map.mp h
    obtain ⟨rfl,rfl⟩ := Prod.mk.inj hpair
    exact Entries.find?_of_mem hn he
  · intro h
    obtain ⟨key,span,rfl,he⟩ := Entries.mem_of_find? h
    exact List.mem_map_of_mem he

theorem alike_found (h : es.Alike fs) (hv : es.find? name = some v) :
    ∃ w, fs.find? name = some w ∧ v.Alike w := by
  have hname := h name
  rw [hv] at hname
  generalize hw : fs.find? name = found at hname ⊢
  cases hname with
  | some ha => exact ⟨_,rfl,ha⟩

theorem alike_found_back (h : es.Alike fs) (hw : fs.find? name = some w) :
    ∃ v, es.find? name = some v ∧ v.Alike w := by
  have hname := h name
  rw [hw] at hname
  generalize hv : es.find? name = found at hname ⊢
  cases hname with
  | some ha => exact ⟨_,rfl,ha⟩

theorem pairs_perm (hes : es.names.Nodup) (hfs : fs.names.Nodup) (h : es.Alike fs)
    (ht : ∀ e ∈ es, ∃ change, Takes e.1.name e.2.2 change) : es.pairs.Perm fs.pairs := by
  have hnodup {gs : Entries} (hgs : gs.names.Nodup) : gs.pairs.Nodup := by
    rw [← Entries.names_pairs] at hgs
    exact hgs.of_map
  refine (List.perm_ext_iff_of_nodup (hnodup hes) (hnodup hfs)).mpr fun ⟨name,v⟩ => ?_
  rw [mem_pairs hes,mem_pairs hfs]
  constructor
  · intro hv
    obtain ⟨_,hc⟩ := takes_found ht hv
    obtain ⟨w,hw,ha⟩ := alike_found h hv
    rw [hw,hc.eq_of_alike ha]
  · intro hw
    obtain ⟨u,hu,ha⟩ := alike_found_back h hw
    obtain ⟨_,hc⟩ := takes_found ht hu
    rw [hu,hc.eq_of_alike ha]

def Offending (es : Entries) (name : String) : Prop :=
  ∃ v m, es.find? name = some v ∧ Offends name v m

theorem offending_alike (h : es.Alike fs) : Offending es name ↔ Offending fs name := by
  constructor
  · rintro ⟨v,m,hv,hm⟩
    obtain ⟨w,hw,ha⟩ := alike_found h hv
    obtain ⟨n,hn⟩ := (offends_alike ha).mp ⟨m,hm⟩
    exact ⟨w,n,hw,hn⟩
  · rintro ⟨w,n,hw,hn⟩
    obtain ⟨v,hv,ha⟩ := alike_found_back h hw
    obtain ⟨m,hm⟩ := (offends_alike ha).mpr ⟨n,hn⟩
    exact ⟨v,m,hv,hm⟩

theorem documented_iff_not_offending (hn : es.names.Nodup) :
    Documented es ↔ ∀ name, ¬Offending es name := by
  rw [documented_iff hn]
  constructor
  · rintro h name ⟨v,m,hv,hm⟩
    obtain ⟨_,hc⟩ := takes_found h hv
    exact hc.not_offends hm
  · rintro h ⟨key,span,v⟩ he
    refine (takes_or_offends key.name v).resolve_right ?_
    rintro ⟨m,hm⟩
    exact h key.name ⟨v,m,Entries.find?_of_mem hn he,hm⟩

theorem FirstOffence.le {place : Span} {other : String} (h : FirstOffence es name m place)
    (ho : Offending es other) : name ≤ other := by
  obtain ⟨v,n,hv,hn⟩ := ho
  obtain ⟨key,span,rfl,he⟩ := Entries.mem_of_find? hv
  exact h.first _ he n hn

theorem FirstOffence.alike {a b : String} {n : Mismatch} {place there : Span}
    (hes : FirstOffence es a m place) (hfs : FirstOffence fs b n there) (hn : es.names.Nodup)
    (hn' : fs.names.Nodup) (h : es.Alike fs) : a = b ∧ m.text = n.text := by
  obtain ⟨key,span,v,hv,rfl,hm,-⟩ := hes.stands
  obtain ⟨key',span',w,hw,rfl,hm',-⟩ := hfs.stands
  have hfound := Entries.find?_of_mem hn hv
  have hfound' := Entries.find?_of_mem hn' hw
  have hname : key.name = key'.name :=
    String.le_antisymm (hes.le ((offending_alike h).mpr ⟨w,n,hfound',hm'⟩))
      (hfs.le ((offending_alike h).mp ⟨v,m,hfound,hm⟩))
  obtain ⟨u,hu,ha⟩ := alike_found h hfound
  rw [hname,hfound',Option.some.injEq] at hu
  subst hu
  exact ⟨hname,(hname ▸ hm).text_eq hm' ha⟩

end alike

/-! ## Texts -/

section texts

variable {text : String} {es : Entries}

theorem read_ok_iff (h : Toml.read? text = some es) {s : Settings} :
    read text = .ok s ↔ TakesAll es.pairs {} s := by
  rw [← ofEntries_ok_iff (Toml.read?_keyed h).nodup,read,h]
  rcases ho : ofEntries es with ⟨m,place⟩ | t <;> simp [ho]

theorem read_accepts_iff (h : Toml.read? text = some es) :
    (∃ s, read text = .ok s) ↔ Documented es := by
  rw [documented_iff (Toml.read?_keyed h).nodup]
  simp only [read_ok_iff h]
  constructor
  · rintro ⟨s,hs⟩ ⟨key,span,v⟩ he
    exact hs.takes _ (List.mem_map_of_mem he)
  · intro ht
    refine TakesAll.total (fun p hp => ?_) {}
    obtain ⟨e,he,rfl⟩ := List.mem_map.mp hp
    exact ht e he

theorem read_error (h : Toml.read? text = some es) {e : Unreadable} (he : read text = .error e) :
    ∃ name what place, e = .mismatch what place ∧ FirstOffence es name what place := by
  rw [read,h] at he
  rcases ho : ofEntries es with ⟨what,place⟩ | s
  · obtain ⟨name,hname⟩ := ofEntries_error ho
    simp only [ho,Except.error.injEq] at he
    exact ⟨name,what,place,he.symm,hname⟩
  · simp [ho] at he

/-- A text that is a document holds settings exactly if its contents are as documented: it has
options only, a string for the language and for the test-runner, a number of 32 bits for the
concurrency and a boolean for the fast tests, and the settings are these values.  Else the key that
is told of is the first in the order of keys with which something is wrong.  Of two texts with the
same contents, both hold the same settings, or the same is told of the same key of both. -/
theorem read_documented (h : Toml.read? text = some es) :
    ((∃ s, read text = .ok s) ↔ Documented es) ∧
    (∀ s, read text = .ok s → Holds es {} s) ∧
    (∀ e, read text = .error e → ∃ name what place, e = .mismatch what place ∧
      FirstOffence es name what place) ∧
    ∀ other fs, Toml.read? other = some fs → es.Alike fs →
      (∃ s, read text = .ok s ∧ read other = .ok s) ∨
      ∃ name what place what' place', read text = .error (.mismatch what place) ∧
        read other = .error (.mismatch what' place') ∧ FirstOffence es name what place ∧
        FirstOffence fs name what' place' ∧ what.text = what'.text := by
  have hn := (Toml.read?_keyed h).nodup
  refine ⟨read_accepts_iff h,fun s hs => ((read_ok_iff h).mp hs).holds hn,fun e => read_error h,?_⟩
  intro other fs h' ha
  have hn' := (Toml.read?_keyed h').nodup
  cases hread : read text with
  | ok s =>
    have ht := (documented_iff hn).mp ((read_accepts_iff h).mp ⟨s,hread⟩)
    have hperm := pairs_perm hn hn' ha ht
    have hs := ((read_ok_iff h).mp hread).perm hperm (by rwa [Entries.names_pairs])
    exact .inl ⟨s,rfl,(read_ok_iff h').mpr hs⟩
  | error e =>
    obtain ⟨name,what,place,rfl,hfirst⟩ := read_error h hread
    cases hread' : read other with
    | ok s =>
      have hd := (documented_iff_not_offending hn').mp ((read_accepts_iff h').mp ⟨s,hread'⟩)
      have hdoc : Documented es :=
        (documented_iff_not_offending hn).mpr fun name ho => hd name ((offending_alike ha).mp ho)
      obtain ⟨t,ht⟩ := (read_accepts_iff h).mpr hdoc
      rw [hread] at ht
      cases ht
    | error e' =>
      obtain ⟨name',what',place',rfl,hfirst'⟩ := read_error h' hread'
      obtain ⟨rfl,htext⟩ := hfirst.alike hfirst' hn hn' ha
      exact .inr ⟨name,what,place,what',place',rfl,rfl,hfirst,hfirst',htext⟩

/-- Two keys are wrong, and the one that is written last comes first in the order of keys. -/
def misspelt : String := "smp = 'two'\njobs = 4\n"

theorem read_documented_misspelt :
    ∃ es place, Toml.read? misspelt = some es ∧ ¬Documented es ∧
      read misspelt = .error (.mismatch (.unknownOption "jobs") place) := by
  have hnames : (Toml.read? misspelt).map Entries.names = some ["smp","jobs"] := by decide +kernel
  obtain ⟨es,h,hn⟩ := Option.map_eq_some_iff.mp hnames
  obtain ⟨haccepts,-,hrejects,-⟩ := read_documented h
  have hjobs : "jobs" ∉ optionNames := by decide
  have hnot : ¬Documented es := fun hd => hjobs (hd.known "jobs" (by simp [hn]))
  cases hread : read misspelt with
  | ok s => exact absurd (haccepts.mp ⟨s,hread⟩) hnot
  | error e =>
    obtain ⟨name,what,place,rfl,⟨key,span,v,hm,rfl,ho,-⟩,hfirst⟩ := hrejects e hread
    obtain ⟨e,he,hename⟩ := List.mem_map.mp (show "jobs" ∈ es.names by simp [hn])
    have hle : key.name ≤ "jobs" := by
      rw [← hename]
      exact hfirst e he _ (.unknown (hename ▸ hjobs))
    have hname : key.name = "smp" ∨ key.name = "jobs" := by
      simpa [hn] using Entries.mem_names hm
    rcases hname with hname | hname
    · rw [hname] at hle
      exact absurd hle (by decide)
    · rw [hname] at ho
      obtain rfl := ho.unique (.unknown hjobs)
      exact ⟨es,place,h,hnot,rfl⟩

end texts

end Settings
end MatrixHarness
