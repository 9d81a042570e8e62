import Mathlib.Data.List.TakeWhile
import MatrixHarness.Language
import MatrixHarness.Locale

/-! # Where a request for a locale leads

A request leads to a bundled locale in any case.  One that is not bundled itself is known by its
language alone, which is its text before the first separator; a request may be written with either
of two separators, a bundled locale only with one. -/
namespace MatrixHarness.Locale

/-- A part of a text is all that stands before the first separator. -/
structure FirstPart (separators : List Char) (part s : String) : Prop where
  unseparated : ∀ c ∈ part.toList, c ∉ separators
  ends : ∃ rest, s.toList = part.toList ++ rest ∧ ∀ c ∈ rest.head?, c ∈ separators

def hyphenated (s : String) : String :=
  String.ofList (s.toList.map fun c => if c = '_' then '-' else c)

theorem firstPart_upTo {separators : List Char} {stop : Char → Bool}
    (hs : ∀ c, stop c = true ↔ c ∈ separators) (s : String) :
    FirstPart separators (upTo stop s) s where
  unseparated c hc := by
    have h := List.mem_takeWhile_imp (by simpa only [upTo,String.toList_ofList] using hc)
    simpa [← hs] using h
  ends := by
    refine ⟨s.toList.dropWhile fun c => !stop c,by simp [upTo],fun c hc => ?_⟩
    have h := List.head?_dropWhile_not (fun c => !stop c) s.toList
    rw [Option.mem_def.mp hc] at h
    exact (hs c).mp (by simpa using h)

/-- No text has two first parts. -/
theorem FirstPart.eq_upTo {separators : List Char} {stop : Char → Bool} {part s : String}
    (h : FirstPart separators part s) (hs : ∀ c, stop c = true ↔ c ∈ separators) :
    upTo stop s = part := by
  obtain ⟨rest,hrest,hhead⟩ := h.ends
  have hpart : ∀ c ∈ part.toList, (!stop c) = true := by
    intro c hc
    simpa [← hs] using h.unseparated c hc
  have hstop : rest.takeWhile (fun c => !stop c) = [] := by
    cases rest with
    | nil => rfl
    | cons c rest => simpa [hs] using hhead c rfl
  rw [upTo,hrest,List.takeWhile_append_of_pos hpart,hstop,List.append_nil,String.ofList_toList]

theorem firstPart_iff_primary {part locale : String} :
    FirstPart ['-'] part locale ↔ primary locale = part := by
  have hs : ∀ c, (c == '-') = true ↔ c ∈ ['-'] := by simp
  constructor
  · exact fun h => h.eq_upTo hs
  · rintro rfl
    exact firstPart_upTo hs locale

theorem firstPart_iff_requestedPrimary {part requested : String} :
    FirstPart ['-','_'] part requested ↔ requestedPrimary requested = part := by
  have hs : ∀ c, (c == '-' || c == '_') = true ↔ c ∈ ['-','_'] := by simp
  constructor
  · exact fun h => h.eq_upTo hs
  · rintro rfl
    exact firstPart_upTo hs requested

theorem FirstPart.hyphenated {part s : String} (h : FirstPart ['-','_'] part s) :
    FirstPart ['-','_'] part (hyphenated s) where
  unseparated := h.unseparated
  ends := by
    obtain ⟨rest,hrest,hhead⟩ := h.ends
    have hpart : part.toList.map (fun c => if c = '_' then '-' else c) = part.toList := by
      calc
        _ = part.toList.map id := by
          apply List.map_congr_left
          intro c hc
          have hne : c ≠ '_' := fun he => h.unseparated c hc (by simp [he])
          exact if_neg hne
        _ = part.toList := List.map_id _
    refine ⟨rest.map fun c => if c = '_' then '-' else c,by simp [Locale.hyphenated,hrest,hpart],?_⟩
    intro c hc
    obtain ⟨d,hd,rfl⟩ := Option.map_eq_some_iff.mp (List.head?_map.symm.trans hc)
    by_cases hunder : d = '_'
    · simp [hunder]
    · simpa [hunder] using hhead d hd

variable {bundled : List String} {requested : String}

theorem resolveIn_of_mem (h : requested ∈ bundled) : resolveIn bundled requested = requested :=
  if_pos h

theorem resolveIn_of_notMem (h : requested ∉ bundled) : resolveIn bundled requested =
    (bundled.find? fun l => primary l == requestedPrimary requested).getD fallback := if_neg h

/-- A request that is not bundled leads to a bundled locale of its language, if there is one. -/
theorem resolveIn_of_language {code : String} (h : requested ∉ bundled)
    (hc : FirstPart ['-','_'] code requested) (hl : ∃ l ∈ bundled, FirstPart ['-'] code l) :
    resolveIn bundled requested ∈ bundled ∧ FirstPart ['-'] code (resolveIn bundled requested) := by
  obtain ⟨l,hl,hcode⟩ := hl
  have hsome : (bundled.find? fun l => primary l == requestedPrimary requested).isSome := by
    rw [List.find?_isSome]
    refine ⟨l,hl,?_⟩
    rw [firstPart_iff_primary.mp hcode,firstPart_iff_requestedPrimary.mp hc,beq_self_eq_true]
  obtain ⟨found,hfound⟩ := Option.isSome_iff_exists.mp hsome
  have hprimary : primary found = requestedPrimary requested := by
    simpa using List.find?_some hfound
  rw [resolveIn_of_notMem h,hfound,Option.getD_some,firstPart_iff_primary]
  exact ⟨List.mem_of_find?_eq_some hfound,
    hprimary.trans (firstPart_iff_requestedPrimary.mp hc)⟩

theorem resolveIn_of_no_language {code : String} (h : requested ∉ bundled)
    (hc : FirstPart ['-','_'] code requested) (hl : ∀ l ∈ bundled, ¬FirstPart ['-'] code l) :
    resolveIn bundled requested = "en" := by
  have hnone : (bundled.find? fun l => primary l == requestedPrimary requested) = none := by
    rw [List.find?_eq_none]
    intro l hmem heq
    apply hl l hmem
    rw [firstPart_iff_primary,← firstPart_iff_requestedPrimary.mp hc]
    exact beq_iff_eq.mp heq
  rw [resolveIn_of_notMem h,hnone]
  rfl

theorem resolveIn_mem (he : "en" ∈ bundled) (requested : String) :
    resolveIn bundled requested ∈ bundled := by
  by_cases h : requested ∈ bundled
  · rwa [resolveIn_of_mem h]
  · have hc := firstPart_iff_requestedPrimary.mpr (Eq.refl (requestedPrimary requested))
    by_cases hl : ∃ l ∈ bundled, FirstPart ['-'] (requestedPrimary requested) l
    · exact (resolveIn_of_language h hc hl).1
    · have hnone : ∀ l ∈ bundled, ¬FirstPart ['-'] (requestedPrimary requested) l :=
        fun l hmem hcode => hl ⟨l,hmem,hcode⟩
      rwa [resolveIn_of_no_language h hc hnone]

theorem resolveIn_congr {code other : String} (h : requested ∉ bundled) (ho : other ∉ bundled)
    (hc : FirstPart ['-','_'] code requested) (hoc : FirstPart ['-','_'] code other) :
    resolveIn bundled other = resolveIn bundled requested := by
  rw [resolveIn_of_notMem h,resolveIn_of_notMem ho,firstPart_iff_requestedPrimary.mp hc,
    firstPart_iff_requestedPrimary.mp hoc]

theorem ofTag?_choose (explicit : Option String) (env : Environment) :
    ∃ language, Language.ofTag? (choose explicit env) = some language := by
  have h : choose explicit env ∈ ["en","zh-CN"] := resolveIn_mem (by decide) _
  rw [List.mem_cons,List.mem_singleton] at h
  rcases h with h | h
  · exact ⟨.english,by rw [h]; rfl⟩
  · exact ⟨.chinese,by rw [h]; rfl⟩

/-- Where a request leads among bundled locales, English being one of them: to a bundled locale in
any case, to itself if it is bundled, else to one of its language if there is any, and else to
English.  So resolving again changes nothing, requests that are not bundled differ only by their
language, and one with the other separator differs only if it is then bundled itself. -/
theorem resolveIn_lands (bundled : List String) (he : "en" ∈ bundled) (requested : String) :
    resolveIn bundled requested ∈ bundled ∧
    (requested ∈ bundled → resolveIn bundled requested = requested) ∧
    (∃ code, FirstPart ['-','_'] code requested) ∧
    (∀ code, FirstPart ['-','_'] code requested → requested ∉ bundled →
      ((∃ l ∈ bundled, FirstPart ['-'] code l) →
        FirstPart ['-'] code (resolveIn bundled requested)) ∧
      ((∀ l ∈ bundled, ¬FirstPart ['-'] code l) → resolveIn bundled requested = "en") ∧
      ∀ other, other ∉ bundled → FirstPart ['-','_'] code other →
        resolveIn bundled other = resolveIn bundled requested) ∧
    resolveIn bundled (resolveIn bundled requested) = resolveIn bundled requested ∧
    (requested ∉ bundled → resolveIn bundled (hyphenated requested) ≠ resolveIn bundled requested →
      hyphenated requested ∈ bundled) := by
  have hmem := resolveIn_mem he requested
  have hcode := firstPart_iff_requestedPrimary.mpr (Eq.refl (requestedPrimary requested))
  refine ⟨hmem,resolveIn_of_mem,⟨_,hcode⟩,fun code hc h => ⟨?_,?_,?_⟩,resolveIn_of_mem hmem,?_⟩
  · exact fun hl => (resolveIn_of_language h hc hl).2
  · exact resolveIn_of_no_language h hc
  · exact fun other ho hoc => resolveIn_congr h ho hc hoc
  · intro h hne
    by_contra hh
    exact hne (resolveIn_congr h hh hcode hcode.hyphenated)

/-- Of these locales, neither the one that was asked for nor the one with the other separator is
bundled. -/
theorem resolveIn_lands_underscores :
    let bundled := ["de_AT","en","zh-CN","zh-TW"]
    "en" ∈ bundled ∧ resolveIn bundled "zh_HK_x" ∈ bundled ∧
      FirstPart ['-'] "zh" (resolveIn bundled "zh_HK_x") ∧
      resolveIn bundled "zh-HK-x" = resolveIn bundled "zh_HK_x" := by
  intro bundled
  have he : "en" ∈ bundled := by decide
  have hn : "zh_HK_x" ∉ bundled := by decide
  have hcode : FirstPart ['-','_'] "zh" "zh_HK_x" := by
    rw [firstPart_iff_requestedPrimary]
    decide
  obtain ⟨hmem,-,-,hsettled,-⟩ := resolveIn_lands bundled he "zh_HK_x"
  obtain ⟨hlanguage,-,hother⟩ := hsettled "zh" hcode hn
  refine ⟨he,hmem,hlanguage ⟨"zh-CN",by decide,?_⟩,hother "zh-HK-x" (by decide) ?_⟩
  · rw [firstPart_iff_primary]
    decide
  · rw [firstPart_iff_requestedPrimary]
    decide

end MatrixHarness.Locale
