import Mathlib.Data.List.Nodup
import Mathlib.Data.List.Perm.Basic
import Mathlib.Logic.Function.Basic
import MatrixHarness.Proofs.Arguments.Glance
import MatrixHarness.Proofs.Arguments.Reading
import MatrixHarness.Proofs.Number.Numerals

/-! # Kept values

What is read is a partial map from flags to values.  A flag that takes effect sets its own value and
no other, so flags that are given once each can take effect in any order. -/
namespace MatrixHarness.Arguments

inductive Kept where
  | text (s : String)
  | path (p : RawText)
  | hint (n : UInt32)
  | raised

def Hint (v : RawText) (n : UInt32) : Prop :=
  1 ≤ n.toNat ∧ ∃ s, v.text? = some s ∧ Number.Numeral s.toList n.toNat

theorem smpValue_ok_iff {v : RawText} {n : UInt32} : smpValue v = .ok n ↔ Hint v n := by
  have hn : n.toNat < 4294967296 := n.toNat_lt
  rw [smpValue]
  rcases hv : v.text? with _ | s
  · simp [Hint,hv]
  · dsimp only
    constructor
    · intro h
      split at h
      · simp at h
      · rename_i m hm
        split_ifs at h with hrange
        obtain ⟨hlow,hhigh⟩ := hrange
        simp only [greatestSmp] at hhigh
        obtain rfl := Except.ok.inj h
        have hnat : (UInt32.ofNat m.toNat).toNat = m.toNat := by
          rw [UInt32.toNat_ofNat']
          omega
        have hint : ((UInt32.ofNat m.toNat).toNat : Int) = m := by omega
        refine ⟨by omega,s,hv,?_⟩
        rw [hint]
        exact (Number.readSigned_ok_iff.mp hm).1
    · rintro ⟨hlow,t,ht,hnumeral⟩
      obtain rfl := Option.some.inj (hv.symm.trans ht)
      have hread : Number.readSigned s = .ok (n.toNat : Int) := by
        refine Number.readSigned_ok_iff.mpr ⟨hnumeral,?_⟩
        simp only [Number.least,Number.greatest]
        omega
      rw [hread]
      dsimp only
      rw [if_pos (by simp only [greatestSmp]; omega),Int.toNat_natCast,UInt32.ofNat_toNat]

def path? (v : RawText) : Option Kept := if v.bytes.isEmpty then none else some (.path v)

/-- What a flag with its value is kept as, unless it is refused. -/
def Item.kept? : Item → Option Kept
  | valued .lang v => v.text?.map .text
  | valued .memcached v => path? v
  | valued .testRunner v => path? v
  | valued .smp v => (smpValue v).toOption.map .hint
  | valued .config v => path? v
  | valued _ _ => none
  | fast => some .raised

def State.kept (st : State) : Flag → Option Kept
  | .lang => st.lang.map .text
  | .memcached => st.memcached.map .path
  | .fast => if st.fast then some .raised else none
  | .testRunner => st.testRunner.map .path
  | .smp => st.smp.map .hint
  | .config => st.config.map .path
  | .help => none
  | .version => none

@[simp] theorem State.kept_start (f : Flag) : State.kept {} f = none := by cases f <;> rfl

/-! ## Flags that take effect -/

theorem keep_kept {f : Flag} (hf : f.takesValue = true) (v : RawText) (st : State) :
    (keep f v st).toOption.map State.kept =
      (Item.valued f v).kept?.map fun k => Function.update st.kept f (some k) := by
  cases f with
  | lang =>
    rcases hv : v.text? with _ | s
    · simp [keep,text,Item.kept?,hv,Except.map,Except.toOption]
    · simp only [keep,text,Item.kept?,hv,Except.map,Except.toOption,Option.map_some,
        Option.some.injEq]
      funext g
      cases g <;> rfl
  | memcached | testRunner | config =>
    by_cases hv : v.bytes.isEmpty = true
    · simp [keep,path,Item.kept?,path?,hv,Except.map,Except.toOption]
    · simp only [keep,path,Item.kept?,path?,hv,Except.map,Except.toOption,Bool.false_eq_true,
        if_false,Option.map_some,Option.some.injEq]
      funext g
      cases g <;> rfl
  | smp =>
    rcases hv : smpValue v with e | n
    · simp [keep,Item.kept?,hv,Except.map,Except.toOption]
    · simp only [keep,Item.kept?,hv,Except.map,Except.toOption,Option.map_some,Option.some.injEq]
      funext g
      cases g <;> rfl
  | fast | help | version => simp [Flag.takesValue,Flag.valueName?] at hf

/-- An item that is a flag and a value just if the flag takes one. -/
def Item.Proper (i : Item) : Prop := i.flag.takesValue = i.value?.isSome

theorem Spelled.proper {i : Item} {words : List RawText} (h : Spelled i words) : i.Proper := by
  cases i with
  | valued f v => exact h.takesValue
  | fast => rfl

theorem Line.proper {is : List Item} {words : List RawText} (h : Line is words) :
    ∀ i ∈ is, i.Proper := by
  induction h with
  | done => simp
  | stop => simp
  | item hs hl ih =>
    intro i hi
    rcases List.mem_cons.mp hi with rfl | hi
    · exact hs.proper
    · exact ih i hi

theorem take?_kept {i : Item} (hi : i.Proper) (st : State) :
    (i.take? st).map State.kept =
      if i.flag ∈ st.used then none
      else i.kept?.map fun k => Function.update st.kept i.flag (some k) := by
  cases i with
  | valued f v =>
    by_cases hf : f ∈ st.used
    · simp [Item.take?,Item.flag,give,hf]
    · have hkeep := keep_kept (f := f) hi v { st with used := st.used ++ [f] }
      simp only [Item.flag,hf,if_false]
      refine Eq.trans ?_ hkeep
      rcases hk : keep f v { st with used := st.used ++ [f] } with e | s <;>
        simp [Item.take?,give,hf,hk,Except.toOption]
  | fast =>
    by_cases hf : Flag.fast ∈ st.used
    · simp [Item.take?,Item.flag,hf]
    · simp only [Item.take?,Item.flag,Item.kept?,hf,if_false,Option.map_some,Option.some.injEq]
      funext g
      cases g <;> rfl

/-- Flags that have taken effect have set their values and left the others as they were. -/
theorem takeAll?_kept {st last : State} {is : List Item} (hn : st.used.Nodup)
    (hi : ∀ i ∈ is, i.Proper) (h : takeAll? st is = some last) :
    (∀ i ∈ is, ∃ k, i.kept? = some k ∧ last.kept i.flag = some k) ∧
      ∀ f ∉ is.map Item.flag, last.kept f = st.kept f := by
  induction is generalizing st with
  | nil =>
    obtain rfl := Option.some.inj h
    simp
  | cons i is ih =>
    have hone := (takeAll?_used h).2 hn
    rw [(takeAll?_used h).1,List.map_cons,List.append_cons] at hone
    rw [takeAll?_cons] at h
    obtain ⟨next,htake,his⟩ := Option.bind_eq_some_iff.mp h
    have hused := (taken_of_take? htake).used
    have hset := take?_kept (hi i (by simp)) st
    rw [htake,if_neg (taken_of_take? htake).fresh,Option.map_some] at hset
    obtain ⟨k,hk,hnext⟩ := Option.map_eq_some_iff.mp hset.symm
    obtain ⟨hrest,hother⟩ := ih (by rw [hused]; exact hone.of_append_left)
      (fun j hj => hi j (by simp [hj])) his
    have hfresh : i.flag ∉ is.map Item.flag := fun hmem =>
      (List.nodup_append.mp hone).2.2 i.flag (by simp) _ hmem rfl
    constructor
    · intro j hj
      rcases List.mem_cons.mp hj with rfl | hj
      · refine ⟨k,hk,?_⟩
        rw [hother _ hfresh,← hnext,Function.update_self]
      · exact hrest j hj
    · intro f hf
      rw [List.map_cons,List.mem_cons,not_or] at hf
      rw [hother f hf.2,← hnext,Function.update_of_ne hf.1]

theorem takeAll?_some (st : State) {is : List Item} (hn : (st.used ++ is.map Item.flag).Nodup)
    (hi : ∀ i ∈ is, i.Proper) (hk : ∀ i ∈ is, i.kept?.isSome = true) :
    ∃ last, takeAll? st is = some last := by
  induction is generalizing st with
  | nil => exact ⟨st,rfl⟩
  | cons i is ih =>
    rw [List.map_cons] at hn
    have hfresh : i.flag ∉ st.used := fun hmem =>
      (List.nodup_append.mp hn).2.2 _ hmem _ (by simp) rfl
    have hset := take?_kept (hi i (by simp)) st
    obtain ⟨k,hkept⟩ := Option.isSome_iff_exists.mp (hk i (by simp))
    rw [if_neg hfresh,hkept,Option.map_some] at hset
    obtain ⟨next,htake,-⟩ := Option.map_eq_some_iff.mp hset
    rw [List.append_cons,← (taken_of_take? htake).used] at hn
    obtain ⟨last,hlast⟩ :=
      ih next hn (fun j hj => hi j (by simp [hj])) fun j hj => hk j (by simp [hj])
    exact ⟨last,by simp [htake,hlast]⟩

/-! ## Command lines that are read -/

def keptOf (i : Invocation) (lang : Option String) : Flag → Option Kept :=
  State.kept
    { lang := lang, memcached := some i.memcached, fast := i.fast, testRunner := i.testRunner,
      smp := i.smp, config := i.config }

theorem State.kept_eq_iff {st : State} {i : Invocation} {lang : Option String} :
    st.kept = keptOf i lang ↔ st.invocation? = some i ∧ st.lang = lang := by
  constructor
  · intro h
    have hpath : Function.Injective Kept.path := fun _ _ => Kept.path.inj
    have hlang := Option.map_injective (fun _ _ => Kept.text.inj) (congrFun h .lang)
    have hmemcached : st.memcached = some i.memcached :=
      Option.map_injective hpath (congrFun h .memcached)
    have hfast : (if st.fast then some Kept.raised else none) =
        if i.fast then some Kept.raised else none := congrFun h .fast
    have hrunner := Option.map_injective hpath (congrFun h .testRunner)
    have hsmp := Option.map_injective (fun _ _ => Kept.hint.inj) (congrFun h .smp)
    have hconfig := Option.map_injective hpath (congrFun h .config)
    have hfast : st.fast = i.fast := by
      rcases hs : st.fast <;> rcases hi : i.fast <;> simp [hs,hi] at hfast <;> rfl
    exact ⟨by simp [State.invocation?,hmemcached,hfast,hrunner,hsmp,hconfig],hlang⟩
  · rintro ⟨hi,rfl⟩
    obtain ⟨m,hm,rfl⟩ := Option.map_eq_some_iff.mp hi
    funext f
    cases f <;> simp [keptOf,State.kept,hm]

/-- Flags and values that spell what is read: each flag once, with the value that is kept for it,
and no flag left out for which a value is kept. -/
structure Spells (i : Invocation) (lang : Option String) (is : List Item) : Prop where
  once : (is.map Item.flag).Nodup
  told : ∀ j ∈ is, ∃ k, j.kept? = some k ∧ keptOf i lang j.flag = some k
  complete : ∀ f ∉ is.map Item.flag, keptOf i lang f = none

theorem spells_iff {i : Invocation} {lang : Option String} {is : List Item}
    (hi : ∀ j ∈ is, j.Proper) :
    (∃ last, takeAll? {} is = some last ∧ last.kept = keptOf i lang) ↔ Spells i lang is := by
  constructor
  · rintro ⟨last,hlast,hkept⟩
    obtain ⟨hset,hother⟩ := takeAll?_kept List.nodup_nil hi hlast
    obtain ⟨hused,hnodup⟩ := takeAll?_used hlast
    rw [hkept] at hset hother
    refine ⟨?_,hset,fun f hf => ?_⟩
    · have hone := hnodup List.nodup_nil
      rwa [hused,List.nil_append] at hone
    · rw [hother f hf,State.kept_start]
  · intro h
    obtain ⟨last,hlast⟩ := takeAll?_some {} h.once hi fun j hj => by
      obtain ⟨k,hk,-⟩ := h.told j hj
      rw [hk]
      rfl
    obtain ⟨hset,hother⟩ := takeAll?_kept List.nodup_nil hi hlast
    refine ⟨last,hlast,?_⟩
    funext f
    by_cases hf : f ∈ is.map Item.flag
    · obtain ⟨j,hj,rfl⟩ := List.mem_map.mp hf
      obtain ⟨k,hk,hlastk⟩ := hset j hj
      obtain ⟨k',hk',hik⟩ := h.told j hj
      rw [hlastk,hik,← hk,hk']
    · rw [hother f hf,h.complete f hf,State.kept_start]

theorem read_eq_run_iff {words : List RawText} {i : Invocation} {lang : Option String} :
    read words = .run i lang ↔
      ∃ last, (readFrom {} words.tail).accepted? = some last ∧ last.kept = keptOf i lang := by
  simp only [State.kept_eq_iff]
  unfold read
  rcases readFrom {} words.tail with last | _ | _ | r
  · rcases hi : last.invocation? with _ | i' <;> simp [Outcome.accepted?,hi]
  all_goals simp [Outcome.accepted?]

theorem read_line_iff {words : List RawText} {is : List Item} (hl : Line is words.tail)
    {i : Invocation} {lang : Option String} :
    read words = .run i lang ↔ Spells i lang is := by
  have hread := readFrom_line hl {} (by simp)
  rw [State.waiting_eq rfl,State.idle_eq rfl,List.nil_append] at hread
  rw [read_eq_run_iff,← spells_iff hl.proper,hread]
  refine exists_congr fun last => and_congr_left fun hkept => ?_
  obtain ⟨hi,-⟩ := State.kept_eq_iff.mp hkept
  obtain ⟨m,hm,-⟩ := Option.map_eq_some_iff.mp hi
  simp [Option.filter_eq_some_iff,hm]

theorem read_iff {words : List RawText} {i : Invocation} {lang : Option String} :
    read words = .run i lang ↔ ∃ is, Line is words.tail ∧ Spells i lang is := by
  constructor
  · intro h
    obtain ⟨is,last,hl,-⟩ := read_run h
    exact ⟨is,hl,(read_line_iff hl).mp h⟩
  · rintro ⟨is,hl,h⟩
    exact (read_line_iff hl).mpr h

end MatrixHarness.Arguments
