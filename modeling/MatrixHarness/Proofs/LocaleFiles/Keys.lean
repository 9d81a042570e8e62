import MatrixHarness.LocaleFiles
import MatrixHarness.Proofs.Toml.Tables

/-! # Keys and paths

The keys of a document are the joined names of the paths that lead to its leaves.  A key tells its
path only if no name on the way is empty or has a dot in it; otherwise two paths may give one
key. -/
namespace MatrixHarness.Toml

/-- A path of names that leads from a value to one below it. -/
inductive Leads : Value → List String → Value → Prop
  | here (v : Value) : Leads v [] v
  | into {origin : Origin} {es : Entries} {key : Key} {span : Span} {v w : Value}
    {path : List String} : (key,span,v) ∈ es → Leads v path w →
    Leads (.table origin es) (key.name :: path) w

def Value.isTable : Value → Bool
  | .table _ _ => true
  | _ => false

theorem Leads.of_not_table {v w : Value} {path : List String} (hv : v.isTable = false)
    (h : Leads v path w) : path = [] ∧ w = v := by
  cases h with
  | here => exact ⟨rfl,rfl⟩
  | into => simp [Value.isTable] at hv

/-- Where no key is there twice, a path leads to one value at most. -/
theorem Leads.unique {v w u : Value} {path : List String} (hw : Leads v path w)
    (hu : Leads v path u) (hv : v.Keyed) : w = u := by
  induction hw with
  | here v =>
    cases hu with
    | here => rfl
  | @into origin es key span v w path hm _ ih =>
    have hes := Value.keyed_table_iff.mp hv
    generalize hname : key.name = name at hu
    cases hu with
    | @into _ _ other _ next _ _ hother hnext =>
      have hfind : es.find? key.name = some next := by
        rw [hname]
        exact Entries.find?_of_mem hes.nodup hother
      obtain rfl : v = next :=
        Option.some.inj ((Entries.find?_of_mem hes.nodup hm).symm.trans hfind)
      exact ih hnext (hes.values _ hm)

namespace Entries

/-- The path leads from the root to a value that is no table. -/
def HasLeaf (es : Entries) (path : List String) : Prop :=
  ∃ v, Leads (.table .headed es) path v ∧ v.isTable = false

def HasTable (es : Entries) (path : List String) : Prop :=
  ∃ v, Leads (.table .headed es) path v ∧ v.isTable = true

theorem HasLeaf.not_hasTable {es : Entries} {path : List String} (h : es.HasLeaf path)
    (hes : es.Keyed) : ¬es.HasTable path := by
  rintro ⟨w,hw,htable⟩
  obtain ⟨v,hv,hleaf⟩ := h
  obtain rfl := hv.unique hw (Value.keyed_table_iff.mpr hes)
  simp [hleaf] at htable

end Entries
end MatrixHarness.Toml

namespace MatrixHarness.LocaleFiles

open Toml

def dotted (path : List String) : String := path.foldl extend ""

mutual

theorem mem_keysBehind {k : String} (before : String) (origin : Origin) (es : Entries) :
    k ∈ keysBehind before es ↔ ∃ path v, Leads (.table origin es) path v ∧ v.isTable = false ∧
      path.foldl extend before = k := by
  match es with
  | [] =>
    refine iff_of_false (by simp [keysBehind]) ?_
    rintro ⟨path,v,hv,hleaf,-⟩
    cases hv with
    | here => simp [Value.isTable] at hleaf
    | into hm => simp at hm
  | (key,span,w) :: es =>
    rw [keysBehind,List.mem_append,mem_keysAt,mem_keysBehind before origin es]
    constructor
    · rintro (⟨path,v,hv,hleaf,hk⟩ | ⟨path,v,hv,hleaf,hk⟩)
      · exact ⟨_,v,.into (List.mem_cons_self ..) hv,hleaf,hk⟩
      · cases hv with
        | here => simp [Value.isTable] at hleaf
        | into hm hv => exact ⟨_,v,.into (List.mem_cons_of_mem _ hm) hv,hleaf,hk⟩
    · rintro ⟨path,v,hv,hleaf,hk⟩
      cases hv with
      | here => simp [Value.isTable] at hleaf
      | into hm hv =>
        rcases List.mem_cons.mp hm with he | hm
        · obtain ⟨rfl,rfl,rfl⟩ := he
          exact .inl ⟨_,v,hv,hleaf,hk⟩
        · exact .inr ⟨_,v,.into hm hv,hleaf,hk⟩

theorem mem_keysAt {k : String} (joined : String) (w : Value) :
    k ∈ keysAt joined w ↔ ∃ path v, Leads w path v ∧ v.isTable = false ∧
      path.foldl extend joined = k := by
  match w with
  | .table origin es =>
    rw [keysAt]
    exact mem_keysBehind joined origin es
  | .string _ | .integer _ | .real _ | .boolean _ | .moment _ | .array _ _ =>
    simp only [keysAt,List.mem_singleton]
    constructor
    · rintro rfl
      exact ⟨[],_,.here _,rfl,rfl⟩
    · rintro ⟨path,v,hv,-,rfl⟩
      obtain ⟨rfl,-⟩ := hv.of_not_table rfl
      rfl

end

/-- The keys of a document are the joined paths to its leaves. -/
theorem mem_keys {k : String} {es : Entries} :
    k ∈ keys es ↔ ∃ path, es.HasLeaf path ∧ dotted path = k := by
  rw [keys,mem_keysBehind "" .headed es]
  constructor
  · rintro ⟨path,v,hv,hleaf,hk⟩
    exact ⟨path,⟨v,hv,hleaf⟩,hk⟩
  · rintro ⟨path,⟨v,hv,hleaf⟩,hk⟩
    exact ⟨path,v,hv,hleaf,hk⟩

/-! ## Keys that tell their paths -/

/-- The name can be told apart from those that it is joined with. -/
def IsPlainName (name : String) : Prop := name ≠ "" ∧ '.' ∉ name.toList

def HasPlainNames (es : Entries) : Prop :=
  ∀ path v, Leads (.table .headed es) path v → ∀ name ∈ path, IsPlainName name

theorem foldl_extend {before : String} (h : before ≠ "") (path : List String) :
    path.foldl extend before = ".".intercalate (before :: path) := by
  induction path generalizing before with
  | nil => simp
  | cons name path ih =>
    have hextend : extend before name = before ++ "." ++ name := by simp [extend,h]
    rw [List.foldl_cons,hextend,ih (by simp)]
    simp

theorem dotted_eq_intercalate {path : List String} (h : ∀ name ∈ path, name ≠ "") :
    dotted path = ".".intercalate path := by
  cases path with
  | nil => simp [dotted]
  | cons name path =>
    have hextend : extend "" name = name := by simp [extend]
    rw [dotted,List.foldl_cons,hextend,foldl_extend (h name (by simp))]

theorem split_dotted {path : List String} (h : ∀ name ∈ path, IsPlainName name) :
    ((dotted path).split '.').toList.map (·.copy) = if path = [] then [""] else path := by
  rw [dotted_eq_intercalate fun name hn => (h name hn).1]
  exact String.toList_split_intercalate fun name hn => (h name hn).2

/-- A key of plain names tells its path. -/
theorem dotted_injective {path other : List String} (h : ∀ name ∈ path, IsPlainName name)
    (ho : ∀ name ∈ other, IsPlainName name) (he : dotted path = dotted other) : path = other := by
  have hparts := (split_dotted h).symm.trans (he ▸ split_dotted ho)
  have hempty : ¬IsPlainName "" := fun hn => hn.1 rfl
  split_ifs at hparts with hp hq hq
  · rw [hp,hq]
  · exact absurd (ho "" (hparts ▸ List.mem_singleton.mpr rfl)) hempty
  · exact absurd (h "" (hparts ▸ List.mem_singleton.mpr rfl)) hempty
  · exact hparts

theorem HasPlainNames.of_hasLeaf {es : Entries} (hes : HasPlainNames es) {path : List String}
    (h : es.HasLeaf path) : ∀ name ∈ path, IsPlainName name := by
  obtain ⟨v,hv,-⟩ := h
  exact hes path v hv

theorem HasPlainNames.dotted_mem_keys {es : Entries} (hes : HasPlainNames es) {path : List String}
    (h : ∀ name ∈ path, IsPlainName name) : dotted path ∈ keys es ↔ es.HasLeaf path := by
  rw [mem_keys]
  constructor
  · rintro ⟨other,hother,he⟩
    exact dotted_injective (hes.of_hasLeaf hother) h he ▸ hother
  · exact fun hleaf => ⟨path,hleaf,rfl⟩

theorem HasPlainNames.hasLeaf_iff {es fs : Entries} (hes : HasPlainNames es)
    (hfs : HasPlainNames fs) (h : ∀ k, k ∈ keys es ↔ k ∈ keys fs) (path : List String) :
    es.HasLeaf path ↔ fs.HasLeaf path := by
  constructor
  · intro hleaf
    have hpath := hes.of_hasLeaf hleaf
    exact (hfs.dotted_mem_keys hpath).mp ((h _).mp ((hes.dotted_mem_keys hpath).mpr hleaf))
  · intro hleaf
    have hpath := hfs.of_hasLeaf hleaf
    exact (hes.dotted_mem_keys hpath).mp ((h _).mpr ((hfs.dotted_mem_keys hpath).mpr hleaf))

end MatrixHarness.LocaleFiles
