import Mathlib.Data.String.Basic
import MatrixHarness.Proofs.LocaleFiles.Keys

/-! # The check of locale files

What the check tells of a directory all of whose locale files are documents: of each file the keys
that the English one has and it has not, and the other way round, each once, however the directory
is listed. -/
namespace MatrixHarness.LocaleFiles

open Toml

def LocaleFile.entries? (f : LocaleFile) : Option Entries :=
  ((f.contents.toOption.bind RawText.text?).bind read?).bind untagEntries?

structure Holds (files : List LocaleFile) (f : LocaleFile) (es : Entries) : Prop where
  mem : f ∈ files
  isLocale : f.isLocale = true
  entries : f.entries? = some es

/-- The files of a directory of which all locale files are documents, the English one among them. -/
structure Parsable (files : List LocaleFile) : Prop where
  nodup : (files.map LocaleFile.name).Nodup
  english : ∃ f ∈ files, f.isLocale = true ∧ f.name = baseName
  parsed : ∀ f ∈ files, f.isLocale = true → f.entries?.isSome = true

/-- What is to be told of a file at some path beside the English entries, and the line that tells
it. -/
inductive Told (path : RawText) (english es : Entries) : Problem → String → Prop
  | missing {k : String} : k ∈ keys english → k ∉ keys es →
    Told path english es (.missing path k) (path.lossy ++ ": missing key '" ++ k ++ "'")
  | extra {k : String} : k ∈ keys es → k ∉ keys english →
    Told path english es (.extra path k)
      (path.lossy ++ ": key '" ++ k ++ "' not present in en.toml")

/-- What the check answers on a listing of a directory. -/
structure Answers (files : List LocaleFile) (english : Entries) (problems : List Problem) :
    Prop where
  checked : check files = .ok problems
  /-- It succeeds exactly if all files have the keys of the English one. -/
  agreed : verdict (.ok files) = .agreed ↔
    ∀ f es, Holds files f es → ∀ k, k ∈ keys es ↔ k ∈ keys english
  outOfSync : verdict (.ok files) ≠ .agreed →
    verdict (.ok files) = .outOfSync (problems.map Problem.text)
  nodup : problems.Nodup
  told : ∀ p line, (p ∈ problems ∧ p.text = line) ↔ ∃ f es, Holds files f es ∧
    Told (RawText.ofString "locales/" ++ f.name) english es p line

/-! ## Sets of keys -/

theorem mem_insertKey {key k : String} {ks : List String} :
    k ∈ insertKey key ks ↔ k = key ∨ k ∈ ks := by
  induction ks with
  | nil => simp [insertKey]
  | cons l ks ih =>
    simp only [insertKey]
    split_ifs with hlt heq
    · simp
    · simp [heq]
    · rw [List.mem_cons,ih,List.mem_cons]
      tauto

theorem pairwise_insertKey {ks : List String} (key : String) (h : ks.Pairwise (· < ·)) :
    (insertKey key ks).Pairwise (· < ·) := by
  induction ks with
  | nil => simp [insertKey]
  | cons k ks ih =>
    obtain ⟨hk,hks⟩ := List.pairwise_cons.mp h
    simp only [insertKey]
    split_ifs with hlt heq
    · refine List.pairwise_cons.mpr ⟨?_,h⟩
      intro l hl
      rcases List.mem_cons.mp hl with rfl | hl
      · exact hlt
      · exact lt_trans hlt (hk l hl)
    · exact h
    · refine List.pairwise_cons.mpr ⟨?_,ih hks⟩
      intro l hl
      rcases mem_insertKey.mp hl with rfl | hl
      · exact lt_of_le_of_ne (not_lt.mp hlt) (Ne.symm heq)
      · exact hk l hl

@[simp] theorem mem_keySet {ks : List String} {k : String} : k ∈ keySet ks ↔ k ∈ ks := by
  induction ks with
  | nil => simp [keySet]
  | cons l ks ih => rw [keySet,List.foldr_cons,mem_insertKey,← keySet,ih,List.mem_cons]

theorem nodup_keySet (ks : List String) : (keySet ks).Nodup := by
  have hsorted : (keySet ks).Pairwise (· < ·) := by
    induction ks with
    | nil => exact .nil
    | cons k ks ih => exact pairwise_insertKey k ih
  exact hsorted.imp ne_of_lt

/-! ## One file -/

section file

variable {f : LocaleFile} {es : Entries}

theorem keysOf_eq (h : f.entries? = some es) : keysOf f = .ok (keys es) := by
  unfold LocaleFile.entries? at h
  obtain ⟨document,hdocument,huntag⟩ := Option.bind_eq_some_iff.mp h
  obtain ⟨text,htext,hread⟩ := Option.bind_eq_some_iff.mp hdocument
  obtain ⟨contents,hcontents,hvalid⟩ := Option.bind_eq_some_iff.mp htext
  have hok : f.contents = .ok contents := by
    rcases hf : f.contents with e | c <;> simp_all [Except.toOption]
  simp [keysOf,hok,hvalid,hread,huntag]

theorem entries?_keyed (h : f.entries? = some es) : es.Keyed := by
  obtain ⟨document,hdocument,huntag⟩ := Option.bind_eq_some_iff.mp h
  obtain ⟨text,-,hread⟩ := Option.bind_eq_some_iff.mp hdocument
  exact (read?_keyed hread).untag huntag

theorem mem_compare {path : RawText} {english es : Entries} {p : Problem} {line : String} :
    (p ∈ compare path (keys english) (keys es) ∧ p.text = line) ↔ Told path english es p line := by
  simp only [compare,List.mem_append,List.mem_map,List.mem_filter,mem_keySet,decide_eq_true_eq]
  constructor
  · rintro ⟨⟨k,⟨hk,hn⟩,rfl⟩ | ⟨k,⟨hk,hn⟩,rfl⟩,rfl⟩
    · exact .missing hk hn
    · exact .extra hk hn
  · intro h
    cases h with
    | missing hk hn => exact ⟨.inl ⟨_,⟨hk,hn⟩,rfl⟩,rfl⟩
    | extra hk hn => exact ⟨.inr ⟨_,⟨hk,hn⟩,rfl⟩,rfl⟩

theorem nodup_compare (path : RawText) (base found : List String) :
    (compare path base found).Nodup := by
  rw [compare,List.nodup_append]
  refine ⟨?_,?_,?_⟩
  · exact ((nodup_keySet base).filter _).map fun _ _ h => (Problem.missing.inj h).2
  · exact ((nodup_keySet found).filter _).map fun _ _ h => (Problem.extra.inj h).2
  · intro p hp q hq
    obtain ⟨k,-,rfl⟩ := List.mem_map.mp hp
    obtain ⟨l,-,rfl⟩ := List.mem_map.mp hq
    simp

def Problem.path : Problem → RawText
  | missing path _ => path
  | extra path _ => path

theorem path_of_mem_compare {path : RawText} {base found : List String} {p : Problem}
    (h : p ∈ compare path base found) : p.path = path := by
  rcases List.mem_append.mp h with h | h
  all_goals
    obtain ⟨k,-,rfl⟩ := List.mem_map.mp h
    rfl

end file

/-! ## All files -/

theorem pathOf_injective {a b : RawText} (h : pathOf a = pathOf b) : a = b := by
  have hbytes := congrArg RawText.bytes h
  simp only [pathOf,RawText.bytes_append] at hbytes
  rcases a with ⟨a⟩
  rcases b with ⟨b⟩
  exact congrArg RawText.mk (List.append_cancel_left hbytes)

def LocaleFile.found (f : LocaleFile) : List String := (f.entries?.map keys).getD []

theorem found_eq {f : LocaleFile} {es : Entries} (h : f.entries? = some es) :
    f.found = keys es := by
  simp [LocaleFile.found,h]

theorem compareAll_eq {base : List String} {fs : List LocaleFile}
    (h : ∀ f ∈ fs, f.entries?.isSome = true) :
    compareAll base fs = .ok (fs.flatMap fun f => compare (pathOf f.name) base f.found) := by
  induction fs with
  | nil => rfl
  | cons f fs ih =>
    obtain ⟨es,hes⟩ := Option.isSome_iff_exists.mp (h f (by simp))
    rw [compareAll,keysOf_eq hes,ih fun f hf => h f (by simp [hf])]
    simp [found_eq hes]

def told (base : List String) (files : List LocaleFile) : List Problem :=
  (files.filter LocaleFile.isLocale).flatMap fun f => compare (pathOf f.name) base f.found

theorem told_perm (base : List String) {files listing : List LocaleFile}
    (h : listing.Perm files) : (told base listing).Perm (told base files) :=
  (h.filter _).flatMap_right _

theorem Holds.perm {files listing : List LocaleFile} {f : LocaleFile} {es : Entries}
    (h : Holds files f es) (hp : listing.Perm files) : Holds listing f es :=
  ⟨hp.mem_iff.mpr h.mem,h.isLocale,h.entries⟩

/-- The keys agree exactly where there is nothing to be told. -/
theorem told_none_iff {path : RawText} {english es : Entries} :
    (∀ p line, ¬Told path english es p line) ↔ ∀ k, k ∈ keys es ↔ k ∈ keys english := by
  constructor
  · intro h k
    by_contra hk
    by_cases hes : k ∈ keys es
    · exact h _ _ (.extra hes fun hen => hk (iff_of_true hes hen))
    · exact h _ _ (.missing (by_contra fun hen => hk (iff_of_false hes hen)) hes)
  · rintro h p line (⟨hen,hes⟩ | ⟨hes,hen⟩)
    · exact hes ((h _).mpr hen)
    · exact hen ((h _).mp hes)

theorem verdict_eq {files : List LocaleFile} {problems : List Problem}
    (h : check files = .ok problems) :
    verdict (.ok files) =
      if problems = [] then .agreed else .outOfSync (problems.map Problem.text) := by
  simp [verdict,h]

theorem agreed_iff {files : List LocaleFile} {problems : List Problem}
    (h : check files = .ok problems) : verdict (.ok files) = .agreed ↔ problems = [] := by
  rw [verdict_eq h]
  split_ifs with hp
  · exact iff_of_true rfl hp
  · exact iff_of_false (by simp) hp

namespace Parsable

variable {files listing : List LocaleFile} (h : Parsable files)
include h

theorem perm (hp : listing.Perm files) : Parsable listing where
  nodup := (hp.map _).nodup_iff.mpr h.nodup
  english := by
    obtain ⟨f,hf,hbase⟩ := h.english
    exact ⟨f,hp.mem_iff.mpr hf,hbase⟩
  parsed f hf := h.parsed f (hp.mem_iff.mp hf)

theorem baseFile_eq {f : LocaleFile} (hf : f ∈ files) (hname : f.name = baseName) :
    baseFile files = f := by
  obtain ⟨g,hfind⟩ : ∃ g, files.find? (·.name == baseName) = some g := by
    rw [← Option.isSome_iff_exists,List.find?_isSome]
    exact ⟨f,hf,by simp [hname]⟩
  have hg : g.name = baseName := by simpa using List.find?_some hfind
  have hsame : g = f := List.inj_on_of_nodup_map h.nodup (List.mem_of_find?_eq_some hfind) hf
    (hg.trans hname.symm)
  rw [baseFile,hfind,Option.getD_some,hsame]

theorem holds_english : ∃ base english, Holds files base english ∧ base.name = baseName := by
  obtain ⟨base,hbase,hlocale,hname⟩ := h.english
  obtain ⟨english,hentries⟩ := Option.isSome_iff_exists.mp (h.parsed base hbase hlocale)
  exact ⟨base,english,⟨hbase,hlocale,hentries⟩,hname⟩

theorem mem_told {english : Entries} {p : Problem} {line : String} :
    (p ∈ told (keys english) files ∧ p.text = line) ↔
      ∃ f es, Holds files f es ∧ Told (pathOf f.name) english es p line := by
  rw [told,List.mem_flatMap]
  constructor
  · rintro ⟨⟨f,hf,hp⟩,hline⟩
    obtain ⟨hmem,hlocale⟩ := List.mem_filter.mp hf
    obtain ⟨es,hes⟩ := Option.isSome_iff_exists.mp (h.parsed f hmem hlocale)
    rw [found_eq hes] at hp
    exact ⟨f,es,⟨hmem,hlocale,hes⟩,mem_compare.mp ⟨hp,hline⟩⟩
  · rintro ⟨f,es,⟨hmem,hlocale,hes⟩,ht⟩
    obtain ⟨hp,hline⟩ := mem_compare.mpr ht
    rw [← found_eq hes] at hp
    exact ⟨⟨f,List.mem_filter.mpr ⟨hmem,hlocale⟩,hp⟩,hline⟩

/-- Files of different names are told apart, so that nothing is told twice. -/
theorem nodup_told (base : List String) : (told base files).Nodup := by
  refine List.nodup_flatMap.mpr ⟨fun f _ => nodup_compare ..,?_⟩
  have hnames : (files.filter LocaleFile.isLocale).Pairwise fun f g => f.name ≠ g.name :=
    (List.pairwise_map.mp h.nodup).sublist List.filter_sublist
  refine hnames.imp fun {f g} hne => ?_
  intro p hf hg
  exact hne (pathOf_injective ((path_of_mem_compare hf).symm.trans (path_of_mem_compare hg)))

theorem told_nil_iff {english : Entries} : told (keys english) files = [] ↔
    ∀ f es, Holds files f es → ∀ k, k ∈ keys es ↔ k ∈ keys english := by
  rw [List.eq_nil_iff_forall_not_mem]
  constructor
  · intro hp f es hf
    exact told_none_iff.mp fun p line ht => hp p (h.mem_told.mpr ⟨f,es,hf,ht⟩).1
  · rintro hk p hp
    obtain ⟨f,es,hf,ht⟩ := h.mem_told.mp ⟨hp,rfl⟩
    exact told_none_iff.mpr (hk f es hf) p _ ht

theorem answers {base : LocaleFile} {english : Entries} (hbase : Holds files base english)
    (hname : base.name = baseName) : Answers files english (told (keys english) files) := by
  have hcheck : check files = .ok (told (keys english) files) := by
    rw [check,h.baseFile_eq hbase.mem hname,keysOf_eq hbase.entries]
    refine compareAll_eq fun f hf => ?_
    obtain ⟨hmem,hlocale⟩ := List.mem_filter.mp hf
    exact h.parsed f hmem hlocale
  constructor
  case checked => exact hcheck
  case agreed => exact (agreed_iff hcheck).trans h.told_nil_iff
  case outOfSync =>
    intro hne
    rw [verdict_eq hcheck,if_neg fun hnil => hne ((agreed_iff hcheck).mpr hnil)]
  case nodup => exact h.nodup_told _
  case told => exact fun p line => h.mem_told

end Parsable

/-- A path that is a leaf of one document and a table of another is told of one of them. -/
theorem told_leaf_or_table {english es fs : Entries} (path other : RawText) (hes : HasPlainNames es)
    (hfs : HasPlainNames fs) (hkeyed : fs.Keyed) {names : List String} (hleaf : es.HasLeaf names)
    (htable : fs.HasTable names) :
    (∃ line, Told path english es (.extra path (dotted names)) line) ∨
      ∃ line, Told other english fs (.missing other (dotted names)) line := by
  have hnames := hes.of_hasLeaf hleaf
  have hmem : dotted names ∈ keys es := (hes.dotted_mem_keys hnames).mpr hleaf
  have hnot : dotted names ∉ keys fs := fun hk =>
    ((hfs.dotted_mem_keys hnames).mp hk).not_hasTable hkeyed htable
  by_cases hen : dotted names ∈ keys english
  · exact .inr ⟨_,.missing hen hnot⟩
  · exact .inl ⟨_,.extra hmem hen⟩

/-- The keys of a document are the joined paths to its leaves.  If all locale files of a directory
are documents, the check succeeds exactly if all of them have the keys of the English one; otherwise
there is one line for each file and each key that it lacks or has too much, in the words of `Told`,
and no other.  The order in which the files are listed makes no difference but for that of the
lines.  Where no name is empty or has a dot in it, files that agree have the same leaves, and a leaf
of one file that is a table of another is always told. -/
theorem check_exact {files : List LocaleFile} (h : Parsable files) :
    (∀ es k, k ∈ keys es ↔ ∃ path, es.HasLeaf path ∧ dotted path = k) ∧
    ∃ base english problems, Holds files base english ∧ base.name = baseName ∧
      Answers files english problems ∧
      (∀ listing, listing.Perm files →
        ∃ others, Answers listing english others ∧ others.Perm problems) ∧
      ∀ f es, Holds files f es → HasPlainNames es →
        (verdict (.ok files) = .agreed → HasPlainNames english →
          ∀ path, es.HasLeaf path ↔ english.HasLeaf path) ∧
        ∀ g fs, Holds files g fs → HasPlainNames fs → ∀ path, es.HasLeaf path → fs.HasTable path →
          .extra (pathOf f.name) (dotted path) ∈ problems ∨
            .missing (pathOf g.name) (dotted path) ∈ problems := by
  refine ⟨fun _ _ => mem_keys,?_⟩
  obtain ⟨base,english,hbase,hname⟩ := h.holds_english
  have hanswers := h.answers hbase hname
  refine ⟨base,english,_,hbase,hname,hanswers,?_,?_⟩
  · intro listing hp
    exact ⟨_,(h.perm hp).answers (hbase.perm hp) hname,told_perm _ hp⟩
  · intro f es hf hes
    constructor
    · exact fun hagreed hen => hes.hasLeaf_iff hen (hanswers.agreed.mp hagreed f es hf)
    · intro g fs hg hfs path hleaf htable
      rcases told_leaf_or_table (pathOf f.name) (pathOf g.name) hes hfs (entries?_keyed hg.entries)
        hleaf htable with ⟨line,ht⟩ | ⟨line,ht⟩
      · exact .inl (h.mem_told.mpr ⟨f,es,hf,ht⟩).1
      · exact .inr (h.mem_told.mpr ⟨g,fs,hg,ht⟩).1

/-- A table of the English file is a text of the Chinese one, and the German one has a key that
looks like a path; what else is listed are no locale files. -/
def outOfSync : List LocaleFile :=
  [⟨RawText.ofString "zh-CN.toml",true,.ok (RawText.ofString "run = 'b'\n")⟩,
    ⟨RawText.ofString "old.toml",false,.error .isADirectory⟩,
    ⟨baseName,true,.ok (RawText.ofString "[run]\nstarted = 'a'\n")⟩,
    ⟨RawText.ofString "de.toml",true,.ok (RawText.ofString "'run.started' = 'c'\nended = 'd'\n")⟩,
    ⟨RawText.ofString "README.md",true,.ok (RawText.ofString "# Locales\n")⟩]

theorem check_exact_outOfSync :
    let missing := "locales/zh-CN.toml: missing key 'run.started'"
    let extra := "locales/zh-CN.toml: key 'run' not present in en.toml"
    let other := "locales/de.toml: key 'ended' not present in en.toml"
    Parsable outOfSync ∧
      (verdict (.ok outOfSync)).message? = some ("Locale files are out of sync:\n  " ++ missing ++
        "\n  " ++ extra ++ "\n  " ++ other) ∧
      verdict (.ok outOfSync.reverse) = .outOfSync [other,missing,extra] ∧
      ∃ english problems others, Answers outOfSync english problems ∧
        Answers outOfSync.reverse english others ∧ others.Perm problems ∧
        problems.map Problem.text = [missing,extra,other] := by
  intro missing extra other
  have h : Parsable outOfSync := by
    constructor
    case nodup => decide +kernel
    case english => exact ⟨_,.tail _ (.tail _ (.head _)),by decide,rfl⟩
    case parsed => decide +kernel
  have hverdict : verdict (.ok outOfSync) = .outOfSync [missing,extra,other] := by decide +kernel
  have hreverse : verdict (.ok outOfSync.reverse) = .outOfSync [other,missing,extra] := by
    decide +kernel
  obtain ⟨-,base,english,problems,-,-,hanswers,hlisting,-⟩ := check_exact h
  obtain ⟨others,hothers,hperm⟩ := hlisting outOfSync.reverse (List.reverse_perm _)
  have hlines := hanswers.outOfSync (by simp [hverdict])
  refine ⟨h,?_,hreverse,english,problems,others,hanswers,hothers,hperm,?_⟩
  · rw [hverdict]
    decide +kernel
  · exact (Verdict.outOfSync.inj (hlines.symm.trans hverdict))

end MatrixHarness.LocaleFiles
