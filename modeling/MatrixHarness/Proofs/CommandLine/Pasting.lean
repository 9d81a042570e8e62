import MatrixHarness.CommandLine.Quoting
import MatrixHarness.CommandLine.Words
import MatrixHarness.Proofs.Text.Raw

/-! # Pasting a command line back

A command line that is shown reads back, split into words as a shell does, as the same command line,
byte for byte.  Read from anywhere in a word, each chunk gives its own characters back; chunks make
up words, and words the line. -/
namespace MatrixHarness.CommandLine

namespace Manner

/-- What a chunk must not hold to be read back: plainly written, anything that a shell takes to mean
something; between single quotes, one of these. -/
def Keeps : Manner → Char → Prop
  | plain, c => isBlank c = false ∧ c ≠ '#' ∧ c ≠ '\x22' ∧ c ≠ '\x27' ∧ c ≠ '\\'
  | single, c => c ≠ '\x27'
  | double, _ => True

theorem keeps_of_suits {m : Manner} {c : Char} (h : m.suits c = true) : m.Keeps c := by
  cases m with
  | plain =>
    refine ⟨?_,?_,?_,?_,?_⟩
    · rw [isBlank]
      by_contra hb
      simp only [Bool.not_eq_false,Bool.or_eq_true,beq_iff_eq] at hb
      rcases hb with (rfl | rfl) | rfl <;> simp [suits] at h
    all_goals
      rintro rfl
      simp [suits] at h
  | single =>
    rintro rfl
    simp [suits] at h
  | double => trivial

theorem keeps_of_mem_forFirst {m : Manner} {c : Char} (h : m ∈ forFirst c) : m.Keeps c := by
  rw [forFirst] at h
  split at h
  · rename_i hc
    obtain rfl := List.mem_singleton.mp h
    simp [hc,Keeps]
  · exact keeps_of_suits (List.mem_filter.mp h).2

theorem forFirst_ne_nil (c : Char) : forFirst c ≠ [] := by
  rw [forFirst]
  split
  · simp
  · by_cases hs : single.suits c = true
    · exact List.ne_nil_of_mem (List.mem_filter.mpr ⟨by simp,hs⟩)
    · -- only a quote or a backslash is left, and these stand between double quotes
      have hd : double.suits c = true := by
        simp only [suits,Bool.not_eq_true',decide_eq_false_iff_not,Decidable.not_not,
          List.mem_cons,List.not_mem_nil,or_false] at hs
        rcases hs with rfl | rfl | rfl
        · rfl
        · contradiction
        · rfl
      exact List.ne_nil_of_mem (List.mem_filter.mpr ⟨by simp,hd⟩)

end Manner

/-! ## Chunks -/

theorem extend_manners (ok : List Manner) (cs : List Char) :
    (ok ≠ [] → (extend ok cs).1 ≠ []) ∧
      ∀ m ∈ (extend ok cs).1, m ∈ ok ∧ ∀ c ∈ (extend ok cs).2.1, m.Keeps c := by
  induction cs generalizing ok with
  | nil => simp [extend]
  | cons c cs ih =>
    simp only [extend]
    split
    · simp
    · rename_i m ms hfilter
      obtain ⟨hne,hkeeps⟩ := ih (m :: ms)
      refine ⟨fun _ => hne (by simp),?_⟩
      intro k hk
      obtain ⟨hmem,hrest⟩ := hkeeps k hk
      rw [← hfilter,List.mem_filter] at hmem
      refine ⟨hmem.1,?_⟩
      intro d hd
      rcases List.mem_cons.mp hd with rfl | hd
      · exact Manner.keeps_of_suits hmem.2
      · exact hrest d hd

theorem flatMap_chunks (word : List Char) : (chunks word).flatMap (·.2) = word := by
  fun_induction chunks word with
  | case1 => rfl
  | case2 c cs r ih =>
    have happend : r.2.1 ++ r.2.2 = cs := extend_append (Manner.forFirst c) cs
    rw [List.flatMap_cons,ih,List.cons_append,happend]

theorem keeps_of_mem_chunks {word : List Char} {p : Manner × List Char} (hp : p ∈ chunks word) :
    p.2 ≠ [] ∧ ∀ c ∈ p.2, p.1.Keeps c := by
  fun_induction chunks word with
  | case1 => simp at hp
  | case2 c cs r ih =>
    rcases List.mem_cons.mp hp with rfl | hp
    · refine ⟨by simp,?_⟩
      obtain ⟨hne,hkeeps⟩ := extend_manners (Manner.forFirst c) cs
      have hmem : r.1.headD .single ∈ r.1 := by
        have hr : r.1 ≠ [] := hne (Manner.forFirst_ne_nil c)
        rw [List.headD_eq_head?_getD,List.head?_eq_some_head hr]
        exact List.head_mem hr
      obtain ⟨hfirst,hrest⟩ := hkeeps _ hmem
      intro d hd
      rcases List.mem_cons.mp hd with rfl | hd
      · exact Manner.keeps_of_mem_forFirst hfirst
      · exact hrest d hd
    · exact ih hp

/-! ## Reading back -/

theorem readWords_single (w cs rest : List Char) (h : ∀ c ∈ cs, c ≠ '\x27') :
    readWords .inSingle w (cs ++ '\x27' :: rest) = readWords .inWord (w ++ cs) rest := by
  induction cs generalizing w with
  | nil => simp [readWords]
  | cons c cs ih =>
    have hc : c ≠ '\x27' := h c (by simp)
    have hrest := ih (w ++ [c]) fun d hd => h d (by simp [hd])
    simpa [readWords,hc] using hrest

theorem readWords_escaped (w rest : List Char) (c : Char) :
    readWords .inDouble w (Manner.escapeInDouble c ++ rest) =
      readWords .inDouble (w ++ [c]) rest := by
  rw [Manner.escapeInDouble]
  split
  · rename_i hc
    have hn : c ≠ '\n' := by
      rintro rfl
      simp at hc
    simp [readWords,hn,hc]
  · rename_i hc
    simp only [List.mem_cons,List.not_mem_nil,or_false,not_or] at hc
    simp [readWords,hc]

theorem readWords_double (w cs rest : List Char) :
    readWords .inDouble w (cs.flatMap Manner.escapeInDouble ++ '\x22' :: rest) =
      readWords .inWord (w ++ cs) rest := by
  induction cs generalizing w with
  | nil => simp [readWords]
  | cons c cs ih =>
    rw [List.flatMap_cons,List.append_assoc,readWords_escaped,ih]
    simp

/-- A chunk gives its characters back to the word that it stands in. -/
theorem readWords_write {m : Manner} {cs : List Char} (h : ∀ c ∈ cs, m.Keeps c)
    (w rest : List Char) :
    readWords .inWord w (m.write cs ++ rest) = readWords .inWord (w ++ cs) rest := by
  cases m with
  | plain =>
    rw [Manner.write]
    induction cs generalizing w with
    | nil => simp
    | cons c cs ih =>
      obtain ⟨hb,-,hd,hs,he⟩ := h c (by simp)
      have hrest := ih (w ++ [c]) fun d hd => h d (by simp [hd])
      simpa [readWords,hb,hd,hs,he] using hrest
  | single => simpa [Manner.write,readWords,isBlank] using readWords_single w cs rest h
  | double => simpa [Manner.write,readWords,isBlank] using readWords_double w cs rest

theorem readWords_quoteWord (w word rest : List Char) :
    readWords .inWord w (quoteWord word ++ rest) = readWords .inWord (w ++ word) rest := by
  rw [quoteWord]
  split
  · rename_i hempty
    simp [List.isEmpty_iff.mp hempty,readWords,isBlank]
  · have hchunks (ps : List (Manner × List Char)) (hps : ∀ p ∈ ps, ∀ c ∈ p.2, p.1.Keeps c)
        (w : List Char) :
        readWords .inWord w (ps.flatMap (fun p => p.1.write p.2) ++ rest) =
          readWords .inWord (w ++ ps.flatMap (·.2)) rest := by
      induction ps generalizing w with
      | nil => simp
      | cons p ps ih =>
        rw [List.flatMap_cons,List.append_assoc,readWords_write (hps p (by simp)),
          ih fun q hq => hps q (by simp [hq])]
        simp
    have hall := hchunks (chunks word) (fun p hp => (keeps_of_mem_chunks hp).2) w
    rwa [flatMap_chunks] at hall

theorem readWords_between {c : Char} (hb : isBlank c = false) (hc : c ≠ '#') (w cs : List Char) :
    readWords .between w (c :: cs) = readWords .inWord [] (c :: cs) := by
  simp [readWords,hb,hc]

theorem quoteWord_begins (word : List Char) :
    ∃ c cs, quoteWord word = c :: cs ∧ isBlank c = false ∧ c ≠ '#' := by
  rw [quoteWord]
  split
  · exact ⟨_,_,rfl,rfl,by decide⟩
  · rename_i hword
    cases hc : chunks word with
    | nil =>
      have hflat := flatMap_chunks word
      simp only [hc,List.flatMap_nil] at hflat
      simp [← hflat] at hword
    | cons p ps =>
      have hp : p ∈ chunks word := by simp [hc]
      obtain ⟨hne,hkeeps⟩ := keeps_of_mem_chunks hp
      obtain ⟨m,chunk⟩ := p
      rw [List.flatMap_cons]
      cases m with
      | plain =>
        obtain ⟨d,ds,rfl⟩ := List.exists_cons_of_ne_nil hne
        obtain ⟨hb,hd,-⟩ := hkeeps d (by simp)
        exact ⟨d,_,rfl,hb,hd⟩
      | single => exact ⟨_,_,rfl,rfl,by decide⟩
      | double => exact ⟨_,_,rfl,rfl,by decide⟩

/-- Quoted words with single blanks between them are split into the same words. -/
theorem readWords_quoted (words : List (List Char)) :
    readWords .between [] ([' '].intercalate (words.map quoteWord)) = some words := by
  -- a word and what follows it
  have hword (word rest : List Char) :
      readWords .between [] (quoteWord word ++ rest) = readWords .inWord word rest := by
    obtain ⟨c,cs,hq,hb,hc⟩ := quoteWord_begins word
    have hread := readWords_quoteWord [] word rest
    rw [hq,List.cons_append] at hread ⊢
    rw [readWords_between hb hc,hread,List.nil_append]
  induction words with
  | nil => rfl
  | cons word words ih =>
    cases words with
    | nil =>
      have hlast := hword word []
      rw [List.append_nil] at hlast
      rw [List.map_singleton,List.intercalate_singleton,hlast,readWords]
    | cons next words =>
      have hrest := hword word (' ' :: [' '].intercalate ((next :: words).map quoteWord))
      simp only [List.map_cons,List.intercalate_cons_cons] at ih hrest ⊢
      rw [List.append_assoc,List.singleton_append,hrest]
      simp [readWords,isBlank,ih]

/-! ## Command lines -/

/-- A command line that a shell can be given: all its parts are text without a NUL. -/
def Pasteable (cl : CommandLine) : Prop :=
  ∀ part ∈ cl, part.text?.isSome = true ∧ 0 ∉ part.bytes

theorem toList_spaced (words : List String) :
    (spaced words).toList = [' '].intercalate (words.map String.toList) := String.toList_intercalate

theorem splitWords_quoted (words : List String) :
    splitWords (spaced (words.map fun w => String.ofList (quoteWord w.toList))) = some words := by
  have hread := readWords_quoted (words.map String.toList)
  rw [List.map_map] at hread
  rw [splitWords,toList_spaced,List.map_map]
  simp only [Function.comp_def,String.toList_ofList] at hread ⊢
  rw [hread,Option.map_some,List.map_map]
  simp [Function.comp_def,String.ofList_toList]

theorem Pasteable.map_ofString_lossy {cl : CommandLine} (h : Pasteable cl) :
    (cl.map RawText.lossy).map RawText.ofString = cl := by
  rw [List.map_map]
  refine (List.map_congr_left fun part hpart => ?_).trans (List.map_id cl)
  obtain ⟨s,hs⟩ := Option.isSome_iff_exists.mp (h part hpart).1
  have hlossy : part.lossy = s := by rw [RawText.lossy,hs]
  rw [Function.comp_apply,hlossy,RawText.ofString_of_text? hs,id]

theorem Pasteable.quote? {cl : CommandLine} (h : Pasteable cl) :
    quote? (cl.map RawText.lossy) =
      some (spaced ((cl.map RawText.lossy).map fun w => String.ofList (quoteWord w.toList))) := by
  rw [CommandLine.quote?,if_neg]
  simp only [List.any_eq_true,not_exists,not_and]
  intro w hw hnul
  obtain ⟨part,hpart,rfl⟩ := List.mem_map.mp hw
  obtain ⟨s,hs⟩ := Option.isSome_iff_exists.mp (h part hpart).1
  rw [RawText.lossy,hs,List.contains_iff_mem] at hnul
  refine (h part hpart).2 ?_
  rw [← RawText.ofString_of_text? hs]
  exact RawText.zero_mem_ofString.mpr hnul

theorem Pasteable.splitWords_shown {cl : CommandLine} (h : Pasteable cl) :
    splitWords cl.shown = some (cl.map RawText.lossy) := by
  rw [shown,h.quote?,Option.getD_some,splitWords_quoted]

theorem quote?_eq_none {cl : CommandLine} {part : RawText} (hp : part ∈ cl)
    (hz : 0 ∈ part.bytes) : CommandLine.quote? (cl.map RawText.lossy) = none := by
  rw [CommandLine.quote?,if_pos]
  rw [List.any_eq_true]
  exact ⟨part.lossy,List.mem_map_of_mem hp,List.contains_iff_mem.mpr (RawText.nul_mem_lossy hz)⟩

/-- A command line of texts without a NUL is shown so that a shell splits it into the same parts,
byte for byte, and no two of them are shown alike.  One with a NUL is shown as it is, its parts with
single blanks between them. -/
theorem shown_pastesBack (cl : CommandLine) :
    (Pasteable cl → (splitWords cl.shown).map (·.map RawText.ofString) = some cl) ∧
    (∀ other : CommandLine, Pasteable cl → Pasteable other → cl.shown = other.shown →
      cl = other) ∧
    ((∃ part ∈ cl, 0 ∈ part.bytes) →
      cl.shown = String.intercalate " " (cl.map RawText.lossy)) := by
  refine ⟨?_,?_,?_⟩
  · intro h
    rw [h.splitWords_shown,Option.map_some,h.map_ofString_lossy]
  · intro other h ho hshown
    have hwords : cl.map RawText.lossy = other.map RawText.lossy := by
      have hsplit := h.splitWords_shown
      rw [hshown,ho.splitWords_shown] at hsplit
      exact (Option.some.inj hsplit).symm
    calc cl = (cl.map RawText.lossy).map RawText.ofString := h.map_ofString_lossy.symm
      _ = (other.map RawText.lossy).map RawText.ofString := by rw [hwords]
      _ = other := ho.map_ofString_lossy
  · rintro ⟨part,hp,hz⟩
    rw [shown,quote?_eq_none hp hz,Option.getD_none]
    rfl

theorem shown_pastesBack_awkward :
    let cl := ["","#x","it's","a^b!","$\\\"`\n"].map RawText.ofString
    Pasteable cl ∧ (splitWords (shown cl)).map (·.map RawText.ofString) = some cl := by
  intro cl
  have h : Pasteable cl := by
    intro part hpart
    obtain ⟨s,hs,rfl⟩ := List.mem_map.mp hpart
    rw [RawText.text?_ofString,RawText.zero_mem_ofString]
    refine ⟨rfl,?_⟩
    simp only [List.mem_cons,List.not_mem_nil,or_false] at hs
    rcases hs with rfl | rfl | rfl | rfl | rfl <;> decide
  exact ⟨h,(shown_pastesBack cl).1 h⟩

end MatrixHarness.CommandLine
