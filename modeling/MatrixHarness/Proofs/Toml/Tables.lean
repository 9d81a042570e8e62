import Mathlib.Data.List.Nodup
import MatrixHarness.Proofs.Toml.Lines
import MatrixHarness.Toml.Tag

/-! # Keys of tables

No table of a document, however deep, has a key twice.  Whatever builds tables adds a key only where
it was not found, and changes what was found in its place. -/
namespace MatrixHarness.Toml

theorem pairwise_sorted {α : Type} (name : α → String) (as : List α) :
    (as.mergeSort fun a b => name a ≤ name b).Pairwise fun a b => name a ≤ name b := by
  have hsorted : (as.mergeSort fun a b => name a ≤ name b).Pairwise
      fun a b => decide (name a ≤ name b) = true := by
    refine List.pairwise_mergeSort (fun a b c hab hbc => ?_) (fun a b => ?_) as
    · exact decide_eq_true (String.le_trans (of_decide_eq_true hab) (of_decide_eq_true hbc))
    · simpa using String.le_total (name a) (name b)
  exact hsorted.imp of_decide_eq_true

namespace Entries

variable {es : Entries} {name : String} {v : Value}

def names (es : Entries) : List String := es.map fun e => e.1.name

@[simp] theorem names_nil : names [] = [] := rfl

@[simp] theorem names_cons (e : Key × Span × Value) (es : Entries) :
    names (e :: es) = e.1.name :: names es := rfl

@[simp] theorem names_append (es fs : Entries) : names (es ++ fs) = es.names ++ fs.names :=
  List.map_append

theorem mem_names {e : Key × Span × Value} (h : e ∈ es) : e.1.name ∈ es.names :=
  List.mem_map_of_mem h

theorem names_pairs (es : Entries) : es.pairs.map Prod.fst = es.names := by
  simp [pairs,names]

theorem mem_of_find? (h : es.find? name = some v) :
    ∃ key span, key.name = name ∧ (key,span,v) ∈ es := by
  induction es with
  | nil => simp [find?] at h
  | cons e es ih =>
    obtain ⟨key,span,w⟩ := e
    rw [find?] at h
    split_ifs at h with hk
    · obtain rfl := Option.some.inj h
      exact ⟨key,span,hk,by simp⟩
    · obtain ⟨key,span,hname,hm⟩ := ih h
      exact ⟨key,span,hname,by simp [hm]⟩

theorem find?_eq_none_iff : es.find? name = none ↔ name ∉ es.names := by
  induction es with
  | nil => simp [find?]
  | cons e es ih =>
    obtain ⟨key,span,w⟩ := e
    rw [find?]
    split_ifs with hk
    · simp [hk]
    · rw [ih,names_cons,List.mem_cons,not_or]
      exact (and_iff_right (Ne.symm hk)).symm

theorem find?_of_mem (hn : es.names.Nodup) {key : Key} {span : Span} (h : (key,span,v) ∈ es) :
    es.find? key.name = some v := by
  induction es with
  | nil => simp at h
  | cons e es ih =>
    obtain ⟨other,place,w⟩ := e
    rcases List.mem_cons.mp h with he | h
    · obtain ⟨rfl,rfl,rfl⟩ := he
      simp [find?]
    · have hnew : other.name ∉ names es := (List.nodup_cons.mp hn).1
      have hne : other.name ≠ key.name := by
        intro he
        rw [he] at hnew
        exact hnew (mem_names h)
      rw [find?,if_neg hne]
      exact ih (List.nodup_cons.mp hn).2 h

@[simp] theorem names_replace (name : String) (v : Value) (es : Entries) :
    (es.replace name v).names = es.names := by
  induction es with
  | nil => rfl
  | cons e es ih =>
    obtain ⟨key,span,w⟩ := e
    rw [replace]
    split_ifs <;> simp [ih]

theorem mem_replace {e : Key × Span × Value} (h : e ∈ es.replace name v) :
    e ∈ es ∨ e.2.2 = v := by
  induction es with
  | nil => simp [replace] at h
  | cons f es ih =>
    obtain ⟨key,span,w⟩ := f
    rw [replace] at h
    split_ifs at h
    · rcases List.mem_cons.mp h with rfl | h
      · exact .inr rfl
      · exact .inl (by simp [h])
    · rcases List.mem_cons.mp h with rfl | h
      · exact .inl (by simp)
      · rcases ih h with h | h
        · exact .inl (by simp [h])
        · exact .inr h

end Entries

inductive Value.Keyed : Value → Prop
  | string (text : String) : Keyed (.string text)
  | integer (n : Int) : Keyed (.integer n)
  | real (x : Real) : Keyed (.real x)
  | boolean (b : Bool) : Keyed (.boolean b)
  | moment (text : String) : Keyed (.moment text)
  | array {headed : Bool} {items : List Value} : (∀ v ∈ items, Keyed v) →
    Keyed (.array headed items)
  | table {origin : Origin} {entries : Entries} : entries.names.Nodup →
    (∀ e ∈ entries, Keyed e.2.2) → Keyed (.table origin entries)

structure Entries.Keyed (es : Entries) : Prop where
  nodup : es.names.Nodup
  values : ∀ e ∈ es, e.2.2.Keyed

theorem Value.keyed_table_iff {origin : Origin} {es : Entries} :
    (Value.table origin es).Keyed ↔ es.Keyed := by
  constructor
  · intro h
    cases h with
    | table hn hv => exact ⟨hn,hv⟩
  · exact fun h => .table h.nodup h.values

theorem Value.keyed_array_iff {headed : Bool} {items : List Value} :
    (Value.array headed items).Keyed ↔ ∀ v ∈ items, v.Keyed := by
  constructor
  · intro h
    cases h with
    | array hv => exact hv
  · exact .array

namespace Entries.Keyed

variable {es : Entries} {name : String} {v : Value}

theorem nil : Entries.Keyed [] := ⟨by simp,by simp⟩

theorem find? (h : es.Keyed) (hv : es.find? name = some v) : v.Keyed := by
  obtain ⟨key,span,-,hm⟩ := mem_of_find? hv
  exact h.values _ hm

theorem replace (h : es.Keyed) (hv : v.Keyed) : (es.replace name v).Keyed := by
  refine ⟨by simpa using h.nodup,fun e he => ?_⟩
  rcases mem_replace he with he | rfl
  · exact h.values e he
  · exact hv

theorem add (h : es.Keyed) (hv : v.Keyed) {key : Key} (span : Span)
    (hnew : key.name ∉ es.names) : Entries.Keyed (es ++ [(key,span,v)]) := by
  constructor
  · rw [names_append,List.nodup_append]
    refine ⟨h.nodup,by simp,?_⟩
    intro a ha b hb
    obtain rfl : b = key.name := by simpa using hb
    rintro rfl
    exact hnew ha
  · intro e he
    rcases List.mem_append.mp he with he | he
    · exact h.values e he
    · obtain rfl := List.mem_singleton.mp he
      exact hv

theorem filter (h : es.Keyed) (p : Key × Span × Value → Bool) : Entries.Keyed (es.filter p) :=
  ⟨h.nodup.sublist ((List.filter_sublist ..).map _),
    fun e he => h.values e (List.mem_of_mem_filter he)⟩

end Entries.Keyed

/-! ## Changes of tables -/

/-- A change that brings no key into a table twice. -/
def Change.Keeps (change : Change) : Prop :=
  ∀ origin es o fs, es.Keyed → change origin es = some (o,fs) → fs.Keyed

/-- The table that is opened in a value has no key twice, and another such table may be put in its
place. -/
theorem open?_keyed {dotted : Bool} {v : Value} {o : Origin} {es : Entries}
    {close : Origin × Entries → Value} (hv : v.Keyed)
    (h : open? dotted v = some (o,es,close)) :
    es.Keyed ∧ ∀ t : Origin × Entries, t.2.Keyed → (close t).Keyed := by
  unfold open? at h
  split at h
  · split_ifs at h
    obtain ⟨rfl,rfl,rfl⟩ := by simpa using h
    exact ⟨Value.keyed_table_iff.mp hv,fun t ht => Value.keyed_table_iff.mpr ht⟩
  · rename_i items
    have hitems := Value.keyed_array_iff.mp hv
    split at h
    · rename_i origin entries hlast
      obtain ⟨rfl,rfl,rfl⟩ := by simpa using h
      refine ⟨Value.keyed_table_iff.mp (hitems _ (List.mem_of_getLast? hlast)),fun t ht => ?_⟩
      refine Value.keyed_array_iff.mpr fun w hw => ?_
      rcases List.mem_append.mp hw with hw | hw
      · exact hitems w (List.dropLast_subset _ hw)
      · obtain rfl := List.mem_singleton.mp hw
        exact Value.keyed_table_iff.mpr ht
    · simp at h
  · simp at h

namespace Change.Keeps

/-- A change keeps keys apart wherever in the tables it is made. -/
theorem alter {change : Change} (h : change.Keeps) (dotted : Bool) (path : List Key) :
    Change.Keeps (alter dotted change path) := by
  induction path with
  | nil => exact h
  | cons k path ih =>
    intro origin es o fs hes hchange
    rw [Toml.alter] at hchange
    split at hchange
    · rename_i hnone
      obtain ⟨⟨p,inner⟩,hinner,he⟩ := Option.map_eq_some_iff.mp hchange
      obtain ⟨rfl,rfl⟩ := Prod.mk.inj he
      have hkeyed : inner.Keyed := ih _ _ _ _ .nil hinner
      exact hes.add (Value.keyed_table_iff.mpr hkeyed) _ (Entries.find?_eq_none_iff.mp hnone)
    · rename_i v hfind
      split at hchange
      · simp at hchange
      · rename_i q inner close hopen
        obtain ⟨hinner,hclose⟩ := open?_keyed (hes.find? hfind) hopen
        obtain ⟨t,ht,he⟩ := Option.map_eq_some_iff.mp hchange
        obtain ⟨rfl,rfl⟩ := Prod.mk.inj he
        exact hes.replace (hclose t (ih _ _ _ _ hinner ht))

theorem insert (path : List Key) (key : Key) (span : Span) {v : Value} (hv : v.Keyed) :
    Change.Keeps (insert path key span v) := by
  refine Change.Keeps.alter ?_ _ path
  intro origin es o fs hes h
  dsimp only at h
  split_ifs at h with _ hfound
  obtain ⟨rfl,rfl⟩ := Prod.mk.inj (Option.some.inj h)
  exact hes.add hv span (Entries.find?_eq_none_iff.mp (by simpa using hfound))

theorem beginTable (path : List Key) (key : Key) (span : Span) :
    Change.Keeps (beginTable path key span) := by
  refine Change.Keeps.alter ?_ _ path
  intro origin es o fs hes h
  dsimp only at h
  split at h
  · rename_i hnone
    obtain ⟨rfl,rfl⟩ := Prod.mk.inj (Option.some.inj h)
    exact hes.add (Value.keyed_table_iff.mpr .nil) span (Entries.find?_eq_none_iff.mp hnone)
  · rename_i inner hfind
    obtain ⟨rfl,rfl⟩ := Prod.mk.inj (Option.some.inj h)
    refine (hes.filter _).add ?_ span ?_
    · exact Value.keyed_table_iff.mpr (Value.keyed_table_iff.mp (hes.find? hfind))
    · simp [Entries.names]
  · simp at h

theorem beginItem (path : List Key) (key : Key) (span : Span) :
    Change.Keeps (beginItem path key span) := by
  have hempty : (Value.table .headed []).Keyed := Value.keyed_table_iff.mpr .nil
  refine Change.Keeps.alter ?_ _ path
  intro origin es o fs hes h
  dsimp only at h
  split at h
  · rename_i hnone
    obtain ⟨rfl,rfl⟩ := Prod.mk.inj (Option.some.inj h)
    refine hes.add ?_ span (Entries.find?_eq_none_iff.mp hnone)
    exact Value.keyed_array_iff.mpr (by simpa using hempty)
  · rename_i items hfind
    obtain ⟨rfl,rfl⟩ := Prod.mk.inj (Option.some.inj h)
    refine hes.replace (Value.keyed_array_iff.mpr fun w hw => ?_)
    rcases List.mem_append.mp hw with hw | hw
    · exact Value.keyed_array_iff.mp (hes.find? hfind) w hw
    · obtain rfl := List.mem_singleton.mp hw
      exact hempty
  · simp at h

end Change.Keeps

/-! ## Reading a document -/

def Statement.Keyed : Statement → Prop
  | .pair _ _ _ v => v.Keyed
  | _ => True

theorem assemble_keyed {sts : List Statement} (h : ∀ st ∈ sts, st.Keyed) (here : List Key) :
    Change.Keeps (assemble here sts) := by
  induction sts generalizing here with
  | nil =>
    intro origin es o fs hes ha
    obtain ⟨rfl,rfl⟩ := Prod.mk.inj (Option.some.inj ha)
    exact hes
  | cons st sts ih =>
    have hrest := ih fun st hst => h st (by simp [hst])
    intro origin es o fs hes ha
    cases st with
    | pair path key span v =>
      have hv : v.Keyed := h (.pair path key span v) (by simp)
      rw [assemble] at ha
      split at ha
      · simp at ha
      · rename_i p gs hstep
        exact hrest _ _ _ _ _
          (((Change.Keeps.insert path key span hv).alter _ _) _ _ _ _ hes hstep) ha
    | header path key span =>
      rw [assemble] at ha
      split at ha
      · simp at ha
      · rename_i p gs hstep
        exact hrest _ _ _ _ _ (Change.Keeps.beginTable path key span _ _ _ _ hes hstep) ha
    | itemHeader path key span =>
      rw [assemble] at ha
      split at ha
      · simp at ha
      · rename_i p gs hstep
        exact hrest _ _ _ _ _ (Change.Keeps.beginItem path key span _ _ _ _ hes hstep) ha

theorem scalar?_keyed {s : List Char} {v : Value} (h : scalar? s = some v) : v.Keyed := by
  unfold scalar? at h
  split_ifs at h
  · exact Option.some.inj h ▸ .boolean _
  · exact Option.some.inj h ▸ .boolean _
  · exact Option.some.inj h ▸ .moment _
  · split at h
    · exact Option.some.inj h ▸ .integer _
    · obtain ⟨x,-,rfl⟩ := Option.map_eq_some_iff.mp h
      exact .real x

/-- A reader of values none of which has a key twice. -/
def ReadsKeyed (value? : List Char → Option (Value × List Char)) : Prop :=
  ∀ s v rest, value? s = some (v,rest) → v.Keyed

section nested

variable {value? : List Char → Option (Value × List Char)} (hvalue : ReadsKeyed value?)
include hvalue

theorem items?_keyed {fuel : Nat} {s rest : List Char} {vs : List Value}
    (h : items? value? fuel s = some (vs,rest)) : ∀ v ∈ vs, v.Keyed := by
  induction fuel generalizing s vs with
  | zero => simp [items?] at h
  | succ fuel ih =>
    rw [items?] at h
    split at h
    · simp at h
    · obtain ⟨rfl,-⟩ := Prod.mk.inj (Option.some.inj h)
      simp
    · split at h
      · simp at h
      · rename_i v r hv
        have hkeyed := hvalue _ _ _ hv
        split at h
        · obtain ⟨p,hp,he⟩ := Option.map_eq_some_iff.mp h
          obtain ⟨rfl,rfl⟩ := Prod.mk.inj he
          simpa using ⟨hkeyed,ih hp⟩
        · obtain ⟨rfl,-⟩ := Prod.mk.inj (Option.some.inj h)
          simpa using hkeyed
        · simp at h

theorem pair?_keyed {gap : List Char → Option (List Char)} {s rest : List Char} {path : List Key}
    {key : Key} {span : Span} {v : Value}
    (h : pair? gap value? s = some ((path,key,span,v),rest)) : v.Keyed := by
  unfold pair? at h
  split at h
  · simp at h
  · split at h
    · split at h
      · simp at h
      · split at h
        · rename_i w r hw
          simp only [Option.some.injEq,Prod.mk.injEq] at h
          obtain ⟨⟨-,-,-,rfl⟩,-⟩ := h
          exact hvalue _ _ _ hw
        · simp at h
    · simp at h

theorem inlinePairs?_keyed {fuel : Nat} {s rest : List Char}
    {ps : List (List Key × Key × Span × Value)}
    (h : inlinePairs? value? fuel s = some (ps,rest)) : ∀ p ∈ ps, p.2.2.2.Keyed := by
  induction fuel generalizing s ps with
  | zero => simp [inlinePairs?] at h
  | succ fuel ih =>
    rw [inlinePairs?] at h
    split at h
    · simp at h
    · obtain ⟨rfl,-⟩ := Prod.mk.inj (Option.some.inj h)
      simp
    · split at h
      · simp at h
      · rename_i p r hp
        have hkeyed := pair?_keyed hvalue hp
        split at h
        · obtain ⟨q,hq,he⟩ := Option.map_eq_some_iff.mp h
          obtain ⟨rfl,rfl⟩ := Prod.mk.inj he
          simpa using ⟨hkeyed,fun a b c d hm => ih hq _ hm⟩
        · obtain ⟨rfl,-⟩ := Prod.mk.inj (Option.some.inj h)
          simpa using hkeyed
        · simp at h

end nested

theorem inlineEntries?_keyed {ps : List (List Key × Key × Span × Value)} {es fs : Entries}
    (hp : ∀ p ∈ ps, p.2.2.2.Keyed) (hes : es.Keyed) (h : inlineEntries? ps es = some fs) :
    fs.Keyed := by
  induction ps generalizing es with
  | nil => exact Option.some.inj h ▸ hes
  | cons p ps ih =>
    obtain ⟨path,key,span,v⟩ := p
    rw [inlineEntries?] at h
    split at h
    · rename_i o gs hins
      have hv : v.Keyed := hp (path,key,span,v) (by simp)
      have hgs : gs.Keyed := Change.Keeps.insert path key span hv _ _ _ _ hes hins
      exact ih (fun p hm => hp p (by simp [hm])) hgs h
    · simp at h

theorem value?_keyed (depth : Nat) : ReadsKeyed (value? depth) := by
  induction depth using Nat.strongRecOn with
  | _ depth ih =>
    intro s v rest h
    rw [value?.eq_def] at h
    split at h
    · -- an array, with its items read one level down
      split at h
      · simp at h
      · rename_i depth
        obtain ⟨p,hp,he⟩ := Option.map_eq_some_iff.mp h
        obtain ⟨rfl,rfl⟩ := Prod.mk.inj he
        exact Value.keyed_array_iff.mpr (items?_keyed (ih depth (Nat.lt_succ_self _)) hp)
    · split at h
      · simp at h
      · rename_i depth
        split at h
        · rename_i ps _ hps
          obtain ⟨es,hes,he⟩ := Option.map_eq_some_iff.mp h
          obtain ⟨rfl,rfl⟩ := Prod.mk.inj he
          have hkeyed := inlinePairs?_keyed (ih depth (Nat.lt_succ_self _)) hps
          exact Value.keyed_table_iff.mpr (inlineEntries?_keyed hkeyed .nil hes)
        · simp at h
    · split at h
      · obtain ⟨p,-,he⟩ := Option.map_eq_some_iff.mp h
        exact (Prod.mk.inj he).1 ▸ .string _
      · obtain ⟨p,-,he⟩ := Option.map_eq_some_iff.mp h
        exact (Prod.mk.inj he).1 ▸ .string _
      · obtain ⟨w,hw,he⟩ := Option.map_eq_some_iff.mp h
        exact (Prod.mk.inj he).1 ▸ scalar?_keyed hw

theorem statement?_keyed {s rest : List Char} {st : Statement}
    (h : statement? s = some (st,rest)) : st.Keyed := by
  unfold statement? at h
  split at h
  · split at h
    · obtain ⟨rfl,-⟩ := Prod.mk.inj (Option.some.inj h)
      trivial
    · simp at h
  · split at h
    · obtain ⟨rfl,-⟩ := Prod.mk.inj (Option.some.inj h)
      trivial
    · simp at h
  · obtain ⟨⟨⟨path,key,span,v⟩,r⟩,hp,he⟩ := Option.map_eq_some_iff.mp h
    obtain ⟨rfl,-⟩ := Prod.mk.inj he
    exact pair?_keyed (value?_keyed deepest) hp

theorem statements?_keyed {fuel : Nat} {s : List Char} {sts : List Statement}
    (h : statements? fuel s = some sts) : ∀ st ∈ sts, st.Keyed := by
  induction fuel generalizing s sts with
  | zero => simp [statements?] at h
  | succ fuel ih =>
    rw [statements?] at h
    split_ifs at h
    · obtain rfl := Option.some.inj h
      simp
    · dsimp only at h
      split at h
      · exact ih h
      · split at h
        · simp at h
        · rename_i st r hst
          split at h
          · obtain ⟨later,hlater,rfl⟩ := Option.map_eq_some_iff.mp h
            simpa using ⟨statement?_keyed hst,ih hlater⟩
          · simp at h

/-- No table of a document has a key twice. -/
theorem read?_keyed {text : String} {es : Entries} (h : read? text = some es) : es.Keyed := by
  rw [read?] at h
  split at h
  · rename_i sts hsts
    obtain ⟨⟨o,fs⟩,hfs,rfl⟩ := Option.map_eq_some_iff.mp h
    exact assemble_keyed (statements?_keyed hsts) [] _ _ _ _ .nil hfs
  · simp at h

/-! ## Tagged dates -/

mutual

theorem untag?_keyed {v w : Value} (hv : v.Keyed) (h : untag? v = some w) : w.Keyed := by
  cases v with
  | array headed items =>
    rw [untag?] at h
    obtain ⟨ws,hws,rfl⟩ := Option.map_eq_some_iff.mp h
    exact Value.keyed_array_iff.mpr (untagItems?_keyed (Value.keyed_array_iff.mp hv) hws)
  | table origin entries =>
    rw [untag?] at h
    split_ifs at h
    · unfold Entries.date? at h
      split at h
      · split_ifs at h
        exact Option.some.inj h ▸ .moment _
      · simp at h
    · obtain ⟨fs,hfs,rfl⟩ := Option.map_eq_some_iff.mp h
      obtain ⟨hnames,hvalues⟩ := untagEntries?_keyed (Value.keyed_table_iff.mp hv).values hfs
      refine Value.keyed_table_iff.mpr ⟨?_,hvalues⟩
      exact hnames ▸ (Value.keyed_table_iff.mp hv).nodup
  | _ =>
    rw [untag?] at h
    · exact Option.some.inj h ▸ hv
    all_goals simp

theorem untagItems?_keyed {vs ws : List Value} (hv : ∀ v ∈ vs, v.Keyed)
    (h : untagItems? vs = some ws) : ∀ w ∈ ws, w.Keyed := by
  cases vs with
  | nil =>
    rw [untagItems?] at h
    obtain rfl := Option.some.inj h
    simp
  | cons v vs =>
    rw [untagItems?] at h
    split at h
    · rename_i w ws hw hws
      obtain rfl := Option.some.inj h
      have hfirst := untag?_keyed (hv v (by simp)) hw
      have hrest := untagItems?_keyed (fun u hu => hv u (by simp [hu])) hws
      simpa using ⟨hfirst,hrest⟩
    · simp at h

theorem untagEntries?_keyed {es fs : Entries} (hv : ∀ e ∈ es, e.2.2.Keyed)
    (h : untagEntries? es = some fs) : fs.names = es.names ∧ ∀ e ∈ fs, e.2.2.Keyed := by
  cases es with
  | nil =>
    rw [untagEntries?] at h
    obtain rfl := Option.some.inj h
    simp
  | cons e es =>
    obtain ⟨key,span,v⟩ := e
    rw [untagEntries?] at h
    split at h
    · rename_i w fs hw hfs
      obtain rfl := Option.some.inj h
      have hfirst : w.Keyed := untag?_keyed (hv (key,span,v) (by simp)) hw
      obtain ⟨hnames,hrest⟩ := untagEntries?_keyed (fun e he => hv e (by simp [he])) hfs
      refine ⟨by simp [hnames],fun e he => ?_⟩
      rcases List.mem_cons.mp he with rfl | he
      · exact hfirst
      · exact hrest e he
    · simp at h

end

theorem Entries.Keyed.untag {es fs : Entries} (hes : es.Keyed) (h : untagEntries? es = some fs) :
    fs.Keyed := by
  obtain ⟨hnames,hvalues⟩ := untagEntries?_keyed hes.values h
  exact ⟨hnames ▸ hes.nodup,hvalues⟩

end MatrixHarness.Toml
