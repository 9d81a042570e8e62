import Mathlib.Data.List.Forall2
import Mathlib.Data.List.Nodup
import MatrixHarness.Proofs.Toml.Scalars
import MatrixHarness.Proofs.Toml.Strings

/-! # Documents of single lines

A document in which each line gives a value to a key of its own.  Whatever the values are, if each
is read from the text it is written as, the document is read as these keys with these values, in the
order of the lines. -/
namespace MatrixHarness.Toml

/-! ## Strings as values -/

theorem writeString_head (s : List Char) :
    ∃ q cs, writeString s = q :: cs ∧ (q = '\x22' ∨ q = '\x27') := by
  rw [writeString]
  cases Form.of s with
  | basic => exact ⟨_,_,rfl,.inl rfl⟩
  | literal => exact ⟨_,_,rfl,.inr rfl⟩
  | longBasic => exact ⟨_,_,rfl,.inl rfl⟩
  | longLiteral => exact ⟨_,_,rfl,.inr rfl⟩

theorem value?_writeString (s : List Char) (depth : Nat) (r : List Char) :
    value? depth (writeString s ++ '\n' :: r) = some (.string (String.ofList s),'\n' :: r) := by
  have hread := string?_writeString s ('\n' :: r) (by simp) (by simp)
  obtain ⟨q,cs,hw,hq⟩ := writeString_head s
  rw [hw,List.cons_append] at hread ⊢
  rcases hq with rfl | rfl <;> rw [value?.eq_def] <;> simp [hread]

/-! ## Assignments -/

/-- What may stand in a bare key, which is never empty. -/
def IsBareKey (name : String) : Prop :=
  name.toList ≠ [] ∧ ∀ c ∈ name.toList, isBareKeyChar c = true

/-- A bare key and a value, with the text that the value is written as. -/
structure Assignment where
  name : String
  written : List Char
  value : Value
  bare : IsBareKey name
  reads : ∀ r, value? deepest (written ++ '\n' :: r) = some (value,'\n' :: r)
  /-- No blank stands in front of the value. -/
  begins : ∀ r, skipBlank (written ++ r) = written ++ r

theorem skipBlank_append {w : List Char} (hne : w ≠ []) (h : ∀ c ∈ w.head?, isBlank c = false)
    (r : List Char) : skipBlank (w ++ r) = w ++ r := by
  obtain ⟨c,cs,rfl⟩ := List.exists_cons_of_ne_nil hne
  have hc : isBlank c = false := h c rfl
  rw [List.cons_append,skipBlank,List.dropWhile_cons_of_neg (by simp [hc])]

theorem isBlank_of_isScalarChar {c : Char} (h : isScalarChar c = true) : isBlank c = false := by
  by_contra hb
  simp only [isBlank,Bool.not_eq_false,Bool.or_eq_true,beq_iff_eq] at hb
  rcases hb with rfl | rfl <;> exact absurd h (by decide)

namespace Assignment

def text (a : Assignment) : List Char :=
  a.name.toList ++ [' ','=',' '] ++ a.written ++ ['\n']

def pair (a : Assignment) : String × Value := (a.name,a.value)

def ofString (name : String) (hb : IsBareKey name) (s : String) : Assignment where
  name := name
  written := writeString s.toList
  value := .string s
  bare := hb
  reads r := by rw [value?_writeString,String.ofList_toList]
  begins := by
    obtain ⟨q,cs,hw,hq⟩ := writeString_head s.toList
    refine skipBlank_append (by simp [hw]) ?_
    rcases hq with rfl | rfl <;> simp [hw,isBlank]

def ofNat (name : String) (hb : IsBareKey name) (n : Nat) (h : n ≤ 9223372036854775807) :
    Assignment where
  name := name
  written := writeNat n
  value := .integer n
  bare := hb
  reads := value?_writeNat h deepest
  begins := skipBlank_append Nat.toDigits_ne_nil fun c hc =>
    isBlank_of_isScalarChar
      (isScalarChar_of_digits isDigit_of_mem_writeNat c (List.mem_of_mem_head? hc))

def ofBoolean (name : String) (hb : IsBareKey name) (b : Bool) : Assignment where
  name := name
  written := writeBoolean b
  value := .boolean b
  bare := hb
  reads := value?_writeBoolean b deepest
  begins := by cases b <;> exact fun _ => rfl

end Assignment

def Entries.pairs (es : Entries) : List (String × Value) := es.map fun e => (e.1.name,e.2.2)

/-! ## Reading a line -/

theorem ne_of_isBareKeyChar {c d : Char} (hc : isBareKeyChar c = true)
    (hd : isBareKeyChar d = false) : c ≠ d := by
  rintro rfl
  simp [hd] at hc

section bareKey

variable {name : List Char} (hne : name ≠ []) (h : ∀ c ∈ name, isBareKeyChar c = true)
include hne h

theorem key?_bare (r : List Char) : ∃ span,
    key? (name ++ ' ' :: r) = some (⟨String.ofList name,span⟩,' ' :: r) := by
  have hblank : isBareKeyChar ' ' = false := by decide
  have htake : (name ++ ' ' :: r).takeWhile isBareKeyChar = name := by
    simp [List.takeWhile_append_of_pos h,hblank]
  have hdrop : (name ++ ' ' :: r).dropWhile isBareKeyChar = ' ' :: r := by
    simp [List.dropWhile_append_of_pos h,hblank]
  obtain ⟨c,cs,hname⟩ := List.exists_cons_of_ne_nil hne
  have hc : isBareKeyChar c = true := h c (by simp [hname])
  have hshort : shortString? (name ++ ' ' :: r) = none := by
    rw [hname,List.cons_append,shortString?]
    · exact fun _ hq => ne_of_isBareKeyChar hc (by decide) (List.cons.inj hq).1
    · exact fun _ hq => ne_of_isBareKeyChar hc (by decide) (List.cons.inj hq).1
  refine ⟨between (name ++ ' ' :: r) (' ' :: r),?_⟩
  rw [key?,hshort]
  simp [htake,hdrop,hne]

theorem dottedKey?_bare (r : List Char) : ∃ span,
    dottedKey? (name ++ ' ' :: '=' :: r) = some ([],⟨String.ofList name,span⟩,'=' :: r) := by
  obtain ⟨span,hkey⟩ := key?_bare hne h ('=' :: r)
  have hblank : skipBlank (' ' :: '=' :: r) = '=' :: r := rfl
  have hlength : (name ++ ' ' :: '=' :: r).length = name.length + r.length + 1 + 1 := by
    simp only [List.length_append,List.length_cons]
    omega
  refine ⟨span,?_⟩
  rw [dottedKey?,hlength,keys?,hkey]
  simp [hblank,deepest]

end bareKey

namespace Assignment

theorem text_append (a : Assignment) (r : List Char) :
    a.text ++ r = a.name.toList ++ ' ' :: '=' :: ' ' :: (a.written ++ '\n' :: r) := by
  simp [text]

theorem text_begins (a : Assignment) (r : List Char) :
    ∃ c cs, a.text ++ r = c :: cs ∧ isBareKeyChar c = true := by
  obtain ⟨hne,hbare⟩ := a.bare
  obtain ⟨c,cs,hname⟩ := List.exists_cons_of_ne_nil hne
  rw [text_append,hname]
  exact ⟨c,_,rfl,hbare c (by simp [hname])⟩

theorem skipBlank_text (a : Assignment) (r : List Char) :
    skipBlank (a.text ++ r) = a.text ++ r := by
  obtain ⟨c,cs,hc,hbare⟩ := a.text_begins r
  have hblank : isBlank c = false := by
    have hspace := ne_of_isBareKeyChar hbare (d := ' ') (by decide)
    have htab := ne_of_isBareKeyChar hbare (d := '\t') (by decide)
    simp [isBlank,hspace,htab]
  rw [hc,skipBlank,List.dropWhile_cons_of_neg (by simp [hblank])]

theorem endLine?_text (a : Assignment) (r : List Char) : endLine? (a.text ++ r) = none := by
  rw [endLine?,skipBlank_text]
  obtain ⟨c,cs,hc,hbare⟩ := a.text_begins r
  have hmark := ne_of_isBareKeyChar hbare (d := '#') (by decide)
  have hfeed := ne_of_isBareKeyChar hbare (d := '\n') (by decide)
  have hreturn := ne_of_isBareKeyChar hbare (d := '\r') (by decide)
  simp [hc,hmark,hfeed,hreturn]

def StatedBy (a : Assignment) (st : Statement) : Prop :=
  ∃ key span, key.name = a.name ∧ st = .pair [] key span a.value

theorem statement?_text (a : Assignment) (r : List Char) :
    ∃ st, a.StatedBy st ∧ statement? (a.text ++ r) = some (st,'\n' :: r) := by
  obtain ⟨hne,hbare⟩ := a.bare
  obtain ⟨c,cs,hc,hfirst⟩ := a.text_begins r
  have hbracket := ne_of_isBareKeyChar hfirst (d := '[') (by decide)
  obtain ⟨span,hkey⟩ := dottedKey?_bare hne hbare (' ' :: (a.written ++ '\n' :: r))
  have hgap : skipBlank (' ' :: (a.written ++ '\n' :: r)) = a.written ++ '\n' :: r := by
    rw [skipBlank,List.dropWhile_cons_of_pos rfl]
    exact a.begins _
  have hsign : skipBlank ('=' :: ' ' :: (a.written ++ '\n' :: r)) =
      '=' :: ' ' :: (a.written ++ '\n' :: r) := rfl
  have hpair : pair? (fun r => some (skipBlank r)) (value? deepest) (a.text ++ r) =
      some (([],⟨a.name,span⟩,between (a.written ++ '\n' :: r) ('\n' :: r),a.value),'\n' :: r) := by
    rw [pair?,text_append,hkey]
    simp only [hsign,hgap,a.reads,String.ofList_toList]
  refine ⟨.pair [] ⟨a.name,span⟩ (between (a.written ++ '\n' :: r) ('\n' :: r)) a.value,
    ⟨_,_,rfl,rfl⟩,?_⟩
  rw [hc] at hpair ⊢
  rw [statement?,hpair]
  · rfl
  · exact fun _ hs => hbracket (List.cons.inj hs).1
  · exact fun _ hs => hbracket (List.cons.inj hs).1

end Assignment

/-! ## Building the table -/

/-- The lines of a document say what its assignments do. -/
theorem statements?_lines (as : List Assignment) {fuel : Nat} (hf : as.length < fuel) :
    ∃ sts, statements? fuel (as.flatMap Assignment.text) = some sts ∧
      List.Forall₂ Assignment.StatedBy as sts := by
  induction as generalizing fuel with
  | nil =>
    obtain ⟨n,rfl⟩ := Nat.exists_eq_add_one_of_ne_zero (Nat.ne_of_gt hf)
    exact ⟨[],rfl,.nil⟩
  | cons a as ih =>
    obtain ⟨n,rfl⟩ := Nat.exists_eq_add_one_of_ne_zero (Nat.ne_of_gt (Nat.zero_lt_of_lt hf))
    obtain ⟨sts,hread,hstated⟩ := ih (Nat.lt_of_succ_lt_succ hf)
    obtain ⟨st,hst,hstatement⟩ := a.statement?_text (as.flatMap Assignment.text)
    have hend : endLine? ('\n' :: as.flatMap Assignment.text) =
        some (as.flatMap Assignment.text) := rfl
    obtain ⟨c,cs,hc,-⟩ := a.text_begins (as.flatMap Assignment.text)
    have hne : (a.text ++ as.flatMap Assignment.text).isEmpty = false := by rw [hc]; rfl
    refine ⟨st :: sts,?_,.cons hst hstated⟩
    rw [List.flatMap_cons,statements?,if_neg (by simp [hne])]
    simp only [a.skipBlank_text,a.endLine?_text,hstatement,hend,hread,Option.map_some]

theorem find?_eq_none {es : Entries} {name : String} (h : name ∉ es.pairs.map Prod.fst) :
    es.find? name = none := by
  induction es with
  | nil => rfl
  | cons e es ih =>
    obtain ⟨k,span,v⟩ := e
    simp only [Entries.pairs,List.map_cons,List.mem_cons,not_or] at h
    rw [Entries.find?,if_neg (Ne.symm h.1)]
    exact ih h.2

theorem assemble_stated {as : List Assignment} {sts : List Statement}
    (h : List.Forall₂ Assignment.StatedBy as sts) (es : Entries)
    (hn : (es.pairs.map Prod.fst ++ as.map Assignment.name).Nodup) :
    ∃ last, assemble [] sts .headed es = some (.headed,last) ∧
      last.pairs = es.pairs ++ as.map Assignment.pair := by
  induction h generalizing es with
  | nil => exact ⟨es,rfl,by simp⟩
  | @cons a st as sts hstated hrest ih =>
    obtain ⟨key,span,hkey,rfl⟩ := hstated
    have hpairs : Entries.pairs (es ++ [(key,span,a.value)]) = es.pairs ++ [a.pair] := by
      simp [Entries.pairs,Assignment.pair,hkey]
    have hfresh : es.find? key.name = none := by
      rw [hkey]
      refine find?_eq_none fun hm => ?_
      exact (List.nodup_append.mp hn).2.2 _ hm _ (by simp) rfl
    obtain ⟨last,hlast,hall⟩ := ih (es ++ [(key,span,a.value)]) (by
      rw [hpairs]
      simpa [Assignment.pair] using hn)
    refine ⟨last,?_,by rw [hall,hpairs]; simp⟩
    have hinsert : alter false (insert [] key span a.value) [] .headed es =
        some (.headed,es ++ [(key,span,a.value)]) := by
      simp [alter,insert,hfresh]
    rw [assemble,hinsert]
    exact hlast

theorem read?_lines (as : List Assignment) (hn : (as.map Assignment.name).Nodup) :
    ∃ es, read? (String.ofList (as.flatMap Assignment.text)) = some es ∧
      es.pairs = as.map Assignment.pair := by
  have hlength : as.length ≤ (as.flatMap Assignment.text).length := by
    clear hn
    induction as with
    | nil => exact Nat.le_refl 0
    | cons a as ih =>
      simp only [List.flatMap_cons,List.length_append,List.length_cons,Assignment.text]
      omega
  have hmark : dropMark (as.flatMap Assignment.text) = as.flatMap Assignment.text := by
    cases as with
    | nil => rfl
    | cons a as =>
      obtain ⟨c,cs,hc,hbare⟩ := a.text_begins (as.flatMap Assignment.text)
      rw [List.flatMap_cons,hc,dropMark]
      exact fun _ hs => ne_of_isBareKeyChar hbare (by decide) (List.cons.inj hs).1
  obtain ⟨sts,hread,hstated⟩ := statements?_lines as (Nat.lt_succ_of_le hlength)
  obtain ⟨last,hlast,hpairs⟩ := assemble_stated hstated [] hn
  refine ⟨last,?_,hpairs⟩
  rw [read?,String.toList_ofList,hmark]
  simp only [hread,hlast,Option.map_some]

end MatrixHarness.Toml
