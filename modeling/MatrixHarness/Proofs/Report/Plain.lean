import MatrixHarness.Message
import MatrixHarness.Duration
import MatrixHarness.Text.Column
import MatrixHarness.Proofs.CommandLine.Pasting

/-! # Plain texts

Texts without an escape.  Whatever there is to say is said plainly in each language, if what is put
in from outside is plain: a command line is shown by the characters of its parts and by those that
quote them, and a number by its digits. -/
namespace MatrixHarness

namespace Text

def Plain (s : String) : Prop := '\x1b' ∉ s.toList

section plain

variable {s t : String}

theorem plain_ofList {cs : List Char} (h : '\x1b' ∉ cs) : Plain (String.ofList cs) := by
  rwa [Plain,String.toList_ofList]

theorem Plain.append (hs : Plain s) (ht : Plain t) : Plain (s ++ t) := by
  rw [Plain,String.toList_append,List.mem_append]
  exact not_or.mpr ⟨hs,ht⟩

theorem plain_blanks (n : Nat) : Plain (blanks n) :=
  plain_ofList fun h => absurd (List.eq_of_mem_replicate h) (by decide)

theorem Plain.alignLeft (h : Plain s) (width : Nat) : Plain (alignLeft width s) :=
  h.append (plain_blanks _)

theorem Plain.alignRight (h : Plain s) (width : Nat) : Plain (alignRight width s) :=
  (plain_blanks _).append h

theorem plain_toString (n : Nat) : Plain (toString n) := by
  intro h
  have hdigit : '\x1b' ∈ Nat.toDigits 10 n := by simpa using h
  exact absurd (Nat.isDigit_of_mem_toDigits (by decide) (by decide) hdigit) (by decide)

/-- Raw text without the byte of an escape is shown plainly, be it text or not. -/
theorem plain_lossy {r : RawText} (h : 0x1b ∉ r.bytes) : Plain r.lossy := by
  intro hm
  have hescape : RawText.IsAscii '\x1b' := by simp [RawText.IsAscii]
  exact h (RawText.ascii_mem_bytes hescape hm)

theorem plain_of_bytes (h : 0x1b ∉ (RawText.ofString s).bytes) : Plain s := by
  have hlossy := plain_lossy h
  rwa [RawText.lossy_ofString] at hlossy

end plain
end Text

/-! ## Command lines -/

namespace CommandLine

/-- The characters by which words are quoted and parted. -/
def quotes : List Char := [' ','\x27','\x22','\\']

theorem mem_write {m : Manner} {cs : List Char} {c : Char} (h : c ∈ m.write cs) :
    c ∈ cs ∨ c ∈ quotes := by
  cases m with
  | plain => exact .inl h
  | single =>
    have hc : c = '\x27' ∨ c ∈ cs ∨ c = '\x27' := by simpa [Manner.write] using h
    rcases hc with rfl | hc | rfl
    · exact .inr (by decide)
    · exact .inl hc
    · exact .inr (by decide)
  | double =>
    have hc : c = '\x22' ∨ (∃ d ∈ cs, c ∈ Manner.escapeInDouble d) ∨ c = '\x22' := by
      simpa [Manner.write] using h
    rcases hc with rfl | ⟨d,hd,hc⟩ | rfl
    · exact .inr (by decide)
    · -- a character is written as it is, or behind a backslash
      rw [Manner.escapeInDouble] at hc
      split at hc
      · obtain rfl | rfl : c = '\\' ∨ c = d := by simpa using hc
        · exact .inr (by decide)
        · exact .inl hd
      · obtain rfl := List.mem_singleton.mp hc
        exact .inl hd
    · exact .inr (by decide)

theorem mem_quoteWord {word : List Char} {c : Char} (h : c ∈ quoteWord word) :
    c ∈ word ∨ c ∈ quotes := by
  rw [quoteWord] at h
  split at h
  · obtain rfl : c = '\x27' := by simpa using h
    exact .inr (by decide)
  · obtain ⟨p,hp,hc⟩ := List.mem_flatMap.mp h
    refine (mem_write hc).imp_left fun hc => ?_
    rw [← flatMap_chunks word]
    exact List.mem_flatMap.mpr ⟨p,hp,hc⟩

theorem mem_spaced {words : List String} {c : Char} (h : c ∈ (spaced words).toList) :
    (∃ w ∈ words, c ∈ w.toList) ∨ c ∈ quotes := by
  rw [toList_spaced] at h
  induction words with
  | nil => simp at h
  | cons word words ih =>
    cases words with
    | nil => exact .inl ⟨word,by simp,by simpa using h⟩
    | cons next words =>
      simp only [List.map_cons,List.intercalate_cons_cons,List.mem_append,List.mem_singleton,
        or_assoc] at h ih
      rcases h with hc | rfl | hc
      · exact .inl ⟨word,by simp,hc⟩
      · exact .inr (by decide)
      · rcases ih hc with ⟨w,hw,hc⟩ | hc
        · exact .inl ⟨w,List.mem_cons_of_mem _ hw,hc⟩
        · exact .inr hc

/-- What is shown of a command line is shown of its parts, or it quotes them or stands between. -/
theorem mem_shown {cl : CommandLine} {c : Char} (h : c ∈ cl.shown.toList) :
    (∃ part ∈ cl, c ∈ part.lossy.toList) ∨ c ∈ quotes := by
  rw [shown,quote?] at h
  split at h
  · rcases mem_spaced h with ⟨w,hw,hc⟩ | hc
    · obtain ⟨part,hpart,rfl⟩ := List.mem_map.mp hw
      exact .inl ⟨part,hpart,hc⟩
    · exact .inr hc
  · rcases mem_spaced h with ⟨w,hw,hc⟩ | hc
    · rw [List.map_map] at hw
      obtain ⟨part,hpart,rfl⟩ := List.mem_map.mp hw
      rw [Function.comp_apply,String.toList_ofList] at hc
      exact (mem_quoteWord hc).imp_left fun hc => ⟨part,hpart,hc⟩
    · exact .inr hc

theorem plain_shown {cl : CommandLine} (h : ∀ part ∈ cl, 0x1b ∉ part.bytes) :
    Text.Plain cl.shown := by
  intro hm
  rcases mem_shown hm with ⟨part,hpart,hc⟩ | hc
  · exact Text.plain_lossy (h part hpart) hc
  · exact absurd hc (by decide)

end CommandLine

/-! ## Numbers and messages -/

open Text

theorem Duration.plain_text (d : Duration) : Plain d.text := by
  have hzero (n : Nat) : Plain (if n < 10 then "0" else "") := by
    split <;> exact plain_ofList (by decide)
  have hunit : Plain d.unit.2 := by
    rw [unit]
    split_ifs <;> exact plain_ofList (by decide)
  have hwhole (n : Nat) : Plain (toString n ++ ".") :=
    (plain_toString n).append (plain_ofList (by decide))
  exact (((hwhole _).append (hzero _)).append (plain_toString _)).append hunit

namespace Message

def inserted : Message → List String
  | settingsUnreadable path => [path]
  | settingsMalformed path => [path]
  | pathNotExpanded path => [path]
  | matrixBanner _ server => [server]
  | variantBanner name => [name]
  | running command => [command]
  | cleanupFailed error => [error]
  | serverNotStarted path => [path]
  | testRunnerNotStarted path => [path]
  | testFailed name status => [name,status]
  | interrupted name => [name]
  | failureLine name reason => [name,reason]
  | _ => []

theorem plain_text {m : Message} (h : ∀ s ∈ m.inserted, Plain s) (locale : String) :
    Plain (m.text locale) := by
  rw [text]
  generalize Language.ofLocale locale = language
  -- messages of one shape go together: words with something behind them, or within them
  cases m
  case settingsUnreadable path | settingsMalformed path | pathNotExpanded path | running path |
      cleanupFailed path =>
    have hpath : Plain path := List.forall_mem_singleton.mp h
    cases language <;> exact (plain_ofList (by decide)).append hpath
  case variantBanner name | serverNotStarted name | testRunnerNotStarted name | interrupted name =>
    have hname : Plain name := List.forall_mem_singleton.mp h
    cases language <;>
      exact ((plain_ofList (by decide)).append hname).append (plain_ofList (by decide))
  case testFailed name status =>
    obtain ⟨hname,hstatus⟩ : Plain name ∧ Plain status := by simpa [inserted] using h
    cases language <;>
      exact (((plain_ofList (by decide)).append hname).append (plain_ofList (by decide))).append
        hstatus
  case failureLine name reason =>
    obtain ⟨hname,hreason⟩ : Plain name ∧ Plain reason := by simpa [inserted] using h
    cases language <;>
      exact ((((plain_ofList (by decide)).append hname).append (plain_ofList (by decide))).append
        hreason).append (plain_ofList (by decide))
  case matrixBanner count server =>
    have hserver : Plain server := List.forall_mem_singleton.mp h
    cases language
    · exact (((plain_ofList (by decide)).append (plain_toString count)).append
        (plain_ofList (by decide))).append hserver
    · exact ((((plain_ofList (by decide)).append hserver).append (plain_ofList (by decide))).append
        (plain_toString count)).append (plain_ofList (by decide))
  all_goals cases language <;> exact plain_ofList (by decide)

end Message
end MatrixHarness
