import Mathlib.Data.List.Basic
import MatrixHarness.Toml.Text
import MatrixHarness.Toml.Written

/-! # Written strings are read back

Whatever text a string holds, the form that it is written in reads back as this text, and what
stands behind it is left.  Escapes are read one at a time; what stands between single quotes is read
as it is; and no run of quotes inside a long string is long enough to end it. -/
namespace MatrixHarness.Toml

/-! ## Characters -/

theorem isPlain_of_needsCode {c : Char} (h : needsCode c = false) (hn : c ≠ '\n') :
    isPlain c = true := by
  rw [needsCode,Bool.or_eq_false_iff] at h
  obtain ⟨hlow,hdelete⟩ := h
  by_cases ht : c = '\t'
  · simp [isPlain,ht]
  · have hc : ' ' ≤ c := by simpa [ht,hn] using hlow
    simpa [isPlain,ht,hc] using hdelete

theorem ne_of_isPlain {c : Char} (h : isPlain c = true) : c ≠ '\n' ∧ c ≠ '\r' := by
  constructor <;> (rintro rfl; exact absurd h (by decide))

theorem toNat_lt_of_needsCode {c : Char} (h : needsCode c = true) : c.toNat < 0x80 := by
  rw [needsCode,Bool.or_eq_true] at h
  rcases h with h | h
  · simp only [Bool.and_eq_true,decide_eq_true_eq] at h
    have hlow : c.toNat < 0x20 := h.1.1
    omega
  · obtain rfl : c = '\x7f' := by simpa using h
    decide

/-- What is read from so many digits alone is read from them whatever follows. -/
theorem numbered?_append {e : List Char} {c : Char} (h : numbered? e.length e = some (c,[]))
    (r : List Char) : numbered? e.length (e ++ r) = some (c,r) := by
  have hlength : ¬(e ++ r).length < e.length := by simp
  rw [numbered?,if_neg hlength,List.take_left,List.drop_left]
  rw [numbered?,if_neg (Nat.lt_irrefl _),List.take_length] at h
  split at h
  · rename_i d hd
    obtain ⟨rfl,-⟩ := Prod.mk.inj (Option.some.inj h)
    rfl
  · simp at h

theorem numbered?_codeOf {c : Char} (h : needsCode c = true) :
    ∃ e, codeOf c = '\\' :: 'u' :: e ∧ ∀ r, numbered? 4 (e ++ r) = some (c,r) := by
  have hdigits : ∀ n : Fin 0x80, ((codeOf (Char.ofNat n)).drop 2).length = 4 ∧
      numbered? 4 ((codeOf (Char.ofNat n)).drop 2) = some (Char.ofNat n,[]) := by decide
  obtain ⟨hlength,hread⟩ := hdigits ⟨c.toNat,toNat_lt_of_needsCode h⟩
  simp only [Char.ofNat_toNat] at hlength hread
  refine ⟨(codeOf c).drop 2,rfl,fun r => ?_⟩
  rw [← hlength] at hread ⊢
  exact numbered?_append hread r

/-- How a character stands between double quotes: as it is, or behind a backslash as an escape that
reads back, and that hides no end of a line. -/
inductive Escaped (c : Char) : List Char → Prop
  | plain : isPlain c = true → c ≠ '\x22' → c ≠ '\\' → Escaped c [c]
  | behind {e : List Char} : (∀ r, unescape? (e ++ r) = some (c,r)) →
    (∀ r, hiddenEnd? (e ++ r) = none) → Escaped c ('\\' :: e)

theorem escaped_escape (c : Char) : Escaped c (escape c) := by
  rw [escape]
  split_ifs with hb ht hn hf hr hq hs hc
  any_goals
    subst c
    exact .behind (fun _ => rfl) fun _ => rfl
  · obtain ⟨e,he,hread⟩ := numbered?_codeOf hc
    rw [he]
    exact .behind hread fun _ => rfl
  · have hplain := isPlain_of_needsCode (by simpa using hc) hn
    exact .plain hplain hq hs

theorem Escaped.head? {c : Char} {e : List Char} (h : Escaped c e) :
    ∃ d r, e = d :: r ∧ d ≠ '\n' ∧ d ≠ '\r' ∧ d ≠ '\x22' := by
  cases h with
  | plain hp hq hs => exact ⟨c,[],rfl,(ne_of_isPlain hp).1,(ne_of_isPlain hp).2,hq⟩
  | behind => exact ⟨'\\',_,rfl,by decide,by decide,by decide⟩

/-! ## Strings on one line -/

theorem basicBody_escaped {c : Char} {e : List Char} (h : Escaped c e) (r : List Char) :
    basicBody (e ++ r) = prepend c (basicBody r) := by
  cases h with
  | plain hp hq hs => rw [List.singleton_append,basicBody,if_neg hq,if_neg hs,if_pos hp]
  | behind hread =>
    rw [List.cons_append,basicBody,if_neg (by decide),if_pos rfl]
    split
    · rename_i p hp
      rw [hread] at hp
      obtain rfl := Option.some.inj hp
      rfl
    · rename_i hp
      rw [hread] at hp
      simp at hp

theorem basicBody_escape (s rest : List Char) :
    basicBody (s.flatMap escape ++ '\x22' :: rest) = some (s,rest) := by
  induction s with
  | nil => rw [List.flatMap_nil,List.nil_append,basicBody,if_pos rfl]
  | cons c s ih =>
    rw [List.flatMap_cons,List.append_assoc,basicBody_escaped (escaped_escape c),ih]
    rfl

theorem literalBody_plain {s : List Char} (h : ∀ c ∈ s, isPlain c = true ∧ c ≠ '\x27')
    (rest : List Char) : literalBody (s ++ '\x27' :: rest) = some (s,rest) := by
  induction s with
  | nil => rfl
  | cons c s ih =>
    obtain ⟨hp,hq⟩ := h c (by simp)
    have hs := ih fun d hd => h d (by simp [hd])
    rw [List.cons_append,literalBody,if_neg hq,if_pos hp,hs]
    rfl

/-! ## Long strings -/

/-- Three quotes and no fourth end a long string, and up to two more in front belong to it. -/
theorem closing?_short {q : Char} {s rest : List Char} (hs : ¬[q,q,q] <+: s)
    (hr : rest.head? ≠ some q) :
    closing? q (s ++ q :: q :: q :: rest) =
      if s.all (· == q) then some (s,rest) else none := by
  match s with
  | [] =>
    match rest with
    | [] => simp [closing?]
    | [d] => simp_all [closing?]
    | d :: e :: r => simp_all [closing?]
  | [a] =>
    match rest with
    | [] => by_cases ha : a = q <;> simp [closing?,ha]
    | d :: r => by_cases ha : a = q <;> simp_all [closing?]
  | [a,b] =>
    by_cases ha : a = q <;> by_cases hb : b = q <;> simp [closing?,ha,hb]
  | a :: b :: c :: r =>
    have hthree : ¬(a = q ∧ b = q ∧ c = q) := by
      rintro ⟨rfl,rfl,rfl⟩
      exact hs ⟨r,rfl⟩
    simp only [List.cons_append,closing?,if_neg hthree,List.all_cons]
    grind

/-- A quote stands as it is behind less than two others. -/
theorem escapeLong_quote {k : Nat} {s r : List Char} (h : escapeLong k s = '\x22' :: r) :
    k < 2 ∧ ∃ t, s = '\x22' :: t ∧ escapeLong (k + 1) t = r := by
  cases s with
  | nil => simp [escapeLong] at h
  | cons c s =>
    rw [escapeLong] at h
    split_ifs at h with hq hk hn
    · exact ⟨hk,s,by rw [hq],(List.cons.inj h).2⟩
    · simp at h
    · simp [hn] at h
    · obtain ⟨d,e,he,-,-,hd⟩ := (escaped_escape c).head?
      rw [he] at h
      exact absurd (List.cons.inj h).1 hd

theorem escapeLong_short (k : Nat) (s : List Char) :
    ¬['\x22','\x22','\x22'] <+: escapeLong k s := by
  rintro ⟨r,h⟩
  obtain ⟨-,t,-,ht⟩ := escapeLong_quote h.symm
  obtain ⟨-,u,-,hu⟩ := escapeLong_quote ht
  obtain ⟨hk,-⟩ := escapeLong_quote hu
  omega

theorem escapeLong_of_all {k : Nat} {s : List Char}
    (h : (escapeLong k s).all (· == '\x22') = true) : escapeLong k s = s := by
  induction s generalizing k with
  | nil => rfl
  | cons c s ih =>
    rw [escapeLong] at h ⊢
    split_ifs at h ⊢ with hq hk hn
    · rw [ih (by simpa [hq] using h)]
    · simp at h
    · simp [hn] at h
    · obtain ⟨d,r,he,-,-,hd⟩ := (escaped_escape c).head?
      simp [he,hd] at h

theorem longBasicBody_plain {c : Char} {r : List Char} (hclose : closing? '\x22' (c :: r) = none)
    (hs : c ≠ '\\') (hp : c = '\n' ∨ isPlain c = true) :
    longBasicBody (c :: r) = prepend c (longBasicBody r) := by
  have hr : c ≠ '\r' := by
    rintro rfl
    simp [isPlain] at hp
  rw [longBasicBody,hclose]
  · simp only [if_neg hs]
    rw [if_pos (by simpa using hp)]
  · exact fun _ hc => absurd hc hr

theorem longBasicBody_escaped {c : Char} {e : List Char} (h : Escaped c e) {r : List Char}
    (hclose : closing? '\x22' (e ++ r) = none) :
    longBasicBody (e ++ r) = prepend c (longBasicBody r) := by
  cases h with
  | plain hp hq hs => exact longBasicBody_plain hclose hs (.inr hp)
  | behind hread hhide =>
    rw [List.cons_append] at hclose ⊢
    rw [longBasicBody,hclose]
    · simp only [if_true]
      split
      · rename_i t ht
        rw [hhide] at ht
        simp at ht
      · split
        · rename_i p hp
          rw [hread] at hp
          obtain rfl := Option.some.inj hp
          rfl
        · rename_i hp
          rw [hread] at hp
          simp at hp
    · simp

theorem longBasicBody_closing {s : List Char} {p : List Char × List Char}
    (h : closing? '\x22' s = some p) : longBasicBody s = some p := by
  cases s with
  | nil => simp [closing?] at h
  | cons c s =>
    rw [longBasicBody.eq_def]
    simp only [h]

theorem longBasicBody_escapeLong (k : Nat) (s : List Char) {rest : List Char}
    (hr : rest.head? ≠ some '\x22') :
    longBasicBody (escapeLong k s ++ '\x22' :: '\x22' :: '\x22' :: rest) = some (s,rest) := by
  -- quotes alone are read together with the three that end the string
  have hend {k : Nat} {s : List Char} (hall : (escapeLong k s).all (· == '\x22') = true) :
      longBasicBody (escapeLong k s ++ '\x22' :: '\x22' :: '\x22' :: rest) = some (s,rest) := by
    have hclose := closing?_short (escapeLong_short k s) hr
    rw [if_pos hall] at hclose
    rw [longBasicBody_closing hclose,escapeLong_of_all hall]
  induction s generalizing k with
  | nil => exact hend rfl
  | cons c s ih =>
    by_cases hall : (escapeLong k (c :: s)).all (· == '\x22') = true
    · exact hend hall
    · have hclose := closing?_short (escapeLong_short k (c :: s)) hr
      rw [if_neg hall] at hclose
      rw [escapeLong] at hclose ⊢
      split_ifs at hclose ⊢ with hq hk hn
      · subst hq
        rw [List.cons_append] at hclose ⊢
        rw [longBasicBody_plain hclose (by decide) (.inr rfl),ih]
        rfl
      · -- a third quote
        subst hq
        have hescaped : Escaped '\x22' ['\\','\x22'] := .behind (fun _ => rfl) fun _ => rfl
        have hcut : '\\' :: '\x22' :: escapeLong 0 s ++ '\x22' :: '\x22' :: '\x22' :: rest =
            ['\\','\x22'] ++ (escapeLong 0 s ++ '\x22' :: '\x22' :: '\x22' :: rest) := rfl
        rw [hcut] at hclose ⊢
        rw [longBasicBody_escaped hescaped hclose,ih]
        rfl
      · subst hn
        rw [List.cons_append] at hclose ⊢
        rw [longBasicBody_plain hclose (by decide) (.inl rfl),ih]
        rfl
      · rw [List.append_assoc] at hclose ⊢
        rw [longBasicBody_escaped (escaped_escape c) hclose,ih]
        rfl

theorem le_longestRun (q : Char) (k : Nat) (s : List Char) : k ≤ longestRun q k s := by
  induction s generalizing k with
  | nil => exact Nat.le_refl k
  | cons c s ih =>
    rw [longestRun]
    split
    · exact Nat.le_trans (Nat.le_succ k) (ih (k + 1))
    · exact Nat.le_max_left ..

theorem longestRun_mono (q : Char) {k l : Nat} (h : k ≤ l) (s : List Char) :
    longestRun q k s ≤ longestRun q l s := by
  induction s generalizing k l with
  | nil => exact h
  | cons c s ih =>
    rw [longestRun,longestRun]
    split
    · exact ih (Nat.succ_le_succ h)
    · omega

/-- No run of what follows a character is longer than the longest of all. -/
theorem longestRun_tail (q c : Char) (s : List Char) :
    longestRun q 0 s ≤ longestRun q 0 (c :: s) := by
  rw [longestRun]
  split
  · exact longestRun_mono q (Nat.zero_le _) s
  · exact Nat.le_max_right ..

theorem short_of_longestRun {q : Char} {s : List Char} (h : longestRun q 0 s ≤ 2) :
    ¬[q,q,q] <+: s := by
  rintro ⟨r,rfl⟩
  simp only [List.cons_append,List.nil_append,longestRun,if_true] at h
  exact absurd (Nat.le_trans (le_longestRun q 3 r) h) (by decide)

theorem longLiteralBody_closing {s : List Char} {p : List Char × List Char}
    (h : closing? '\x27' s = some p) : longLiteralBody s = some p := by
  cases s with
  | nil => simp [closing?] at h
  | cons c s =>
    rw [longLiteralBody.eq_def]
    simp only [h]

theorem longLiteralBody_plain {s : List Char} (hs : ∀ c ∈ s, needsCode c = false)
    (hq : longestRun '\x27' 0 s ≤ 2) {rest : List Char} (hr : rest.head? ≠ some '\x27') :
    longLiteralBody (s ++ '\x27' :: '\x27' :: '\x27' :: rest) = some (s,rest) := by
  induction s with
  | nil => exact longLiteralBody_closing (closing?_short (short_of_longestRun hq) hr)
  | cons c s ih =>
    have hclose := closing?_short (short_of_longestRun hq) hr
    by_cases hall : (c :: s).all (· == '\x27') = true
    · rw [if_pos hall] at hclose
      exact longLiteralBody_closing hclose
    · have hc := hs c (by simp)
      have hplain : c = '\n' ∨ isPlain c = true := by
        by_cases hn : c = '\n'
        · exact .inl hn
        · exact .inr (isPlain_of_needsCode hc hn)
      have hreturn : c ≠ '\r' := by
        rintro rfl
        exact absurd hc (by decide)
      have hrest := ih (fun d hd => hs d (by simp [hd])) (Nat.le_trans (longestRun_tail _ c s) hq)
      rw [if_neg hall] at hclose
      rw [List.cons_append] at hclose ⊢
      rw [longLiteralBody,hclose]
      · simp only
        rw [if_pos (by simpa using hplain),hrest]
        rfl
      · exact fun _ h => absurd h hreturn

/-! ## Forms -/

theorem Form.of_literal {s : List Char} (h : Form.of s = .literal) :
    ∀ c ∈ s, isPlain c = true ∧ c ≠ '\x27' := by
  rw [Form.of] at h
  split_ifs at h with hb hl
  simp only [Bool.and_eq_true,Bool.not_eq_true',List.any_eq_false,List.contains_eq_mem,
    decide_eq_false_iff_not,Bool.not_eq_true] at hl
  obtain ⟨⟨hcodes,hquote⟩,hlines⟩ := hl
  intro c hc
  have hn : c ≠ '\n' := fun hn => hlines (hn ▸ hc)
  exact ⟨isPlain_of_needsCode (hcodes c hc) hn,fun hq => hquote (hq ▸ hc)⟩

theorem Form.of_longLiteral {s : List Char} (h : Form.of s = .longLiteral) :
    (∀ c ∈ s, needsCode c = false) ∧ longestRun '\x27' 0 s ≤ 2 := by
  rw [Form.of] at h
  split_ifs at h with hb hl hlb hll
  simpa using hll

/-- The line end in front of a long string is dropped, and no other. -/
theorem dropFirstEnd_ownLine {s t : List Char}
    (h : '\n' ∉ s → t.head? ≠ some '\n' ∧ t.head? ≠ some '\r') :
    dropFirstEnd (ownLine s ++ t) = t := by
  rw [ownLine]
  split
  · rfl
  · rename_i hs
    obtain ⟨hn,hr⟩ := h (by simpa using hs)
    match t with
    | [] => rfl
    | c :: t =>
      rw [List.nil_append,dropFirstEnd]
      · simpa using hn
      · intro _ hc
        exact absurd (congrArg List.head? hc) hr

/-- No string begins with a line end unless it holds one. -/
theorem escapeLong_head? {k : Nat} {s : List Char} (hs : '\n' ∉ s) (rest : List Char) :
    (escapeLong k s ++ '\x22' :: rest).head? ≠ some '\n' ∧
      (escapeLong k s ++ '\x22' :: rest).head? ≠ some '\r' := by
  cases s with
  | nil => simp [escapeLong]
  | cons c s =>
    rw [escapeLong]
    split_ifs with hq hk hn
    · simp [hq]
    · simp
    · simp [hn] at hs
    · obtain ⟨d,r,he,hn,hr,-⟩ := (escaped_escape c).head?
      simp [he,hn,hr]

theorem string?_short {q : Char} {t rest : List Char} (ht : t.head? ≠ some q)
    (hr : rest.head? ≠ some q) :
    string? (q :: (t ++ q :: rest)) = shortString? (q :: (t ++ q :: rest)) := by
  have htwo (r : List Char) : t ++ q :: rest ≠ q :: q :: r := by
    intro h
    rcases t with _ | ⟨d,t⟩
    · exact hr (congrArg List.head? (List.cons.inj h).2)
    · exact ht (congrArg some (List.cons.inj h).1)
  rw [string?.eq_def]
  split
  · rename_i h
    obtain ⟨rfl,h⟩ := List.cons.inj h
    exact absurd h (htwo _)
  · rename_i h
    obtain ⟨rfl,h⟩ := List.cons.inj h
    exact absurd h (htwo _)
  · rfl

/-- A string is read back from the text it is written as, whatever stands behind it but a quote. -/
theorem string?_writeString (s rest : List Char) (hd : rest.head? ≠ some '\x22')
    (hs : rest.head? ≠ some '\x27') : string? (writeString s ++ rest) = some (s,rest) := by
  rw [writeString]
  cases hf : Form.of s with
  | basic =>
    have hhead : (s.flatMap escape).head? ≠ some '\x22' := by
      cases s with
      | nil => simp
      | cons c s =>
        obtain ⟨d,r,he,-,-,hq⟩ := (escaped_escape c).head?
        simp [he,hq]
    simp only [List.cons_append,List.append_assoc,List.nil_append]
    rw [string?_short hhead hd,shortString?,basicBody_escape]
  | literal =>
    have hplain := Form.of_literal hf
    have hhead : s.head? ≠ some '\x27' := fun h => (hplain _ (List.mem_of_head? h)).2 rfl
    simp only [List.cons_append,List.append_assoc,List.nil_append]
    rw [string?_short hhead hs,shortString?,literalBody_plain hplain]
  | longBasic =>
    simp only [List.cons_append,List.append_assoc,List.nil_append]
    rw [string?,dropFirstEnd_ownLine fun hn => escapeLong_head? hn _,
      longBasicBody_escapeLong 0 s hd]
  | longLiteral =>
    obtain ⟨hcodes,hrun⟩ := Form.of_longLiteral hf
    have hhead (hn : '\n' ∉ s) (r : List Char) :
        (s ++ '\x27' :: r).head? ≠ some '\n' ∧ (s ++ '\x27' :: r).head? ≠ some '\r' := by
      cases s with
      | nil => simp
      | cons c s =>
        have hc := isPlain_of_needsCode (hcodes c (by simp)) fun h => hn (by simp [h])
        simpa using ne_of_isPlain hc
    simp only [List.cons_append,List.append_assoc,List.nil_append]
    rw [string?,dropFirstEnd_ownLine fun hn => hhead hn _,
      longLiteralBody_plain hcodes hrun hs]

end MatrixHarness.Toml
