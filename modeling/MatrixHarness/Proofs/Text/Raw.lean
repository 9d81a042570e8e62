import Mathlib.Data.List.Forall2
import MatrixHarness.Text.Raw

/-! # Raw text and its decoding

Raw text that is text is that of its characters, and a NUL is one byte that no other character
holds.  Whatever raw text is shown with, its ASCII beginning is that of the bytes, so that a
beginning can be looked for in either, and no character of ASCII is shown but for its own byte. -/
namespace MatrixHarness.RawText

theorem eq_of_bytes {a b : RawText} (h : a.bytes = b.bytes) : a = b := congrArg RawText.mk h

theorem ofString_of_text? {t : RawText} {s : String} (h : t.text? = some s) : ofString s = t := by
  rw [text?,String.fromUTF8?] at h
  split at h
  · obtain rfl := Option.some.inj h
    rfl
  · simp at h

theorem bytes_ofString (s : String) :
    (ofString s).bytes = s.toList.flatMap String.utf8EncodeChar := by
  rw [ofString,← String.utf8Encode_toList,List.utf8Encode,List.toList_data_toByteArray]

/-! ## The byte zero -/

theorem zero_mem_utf8EncodeChar {c : Char} : 0 ∈ String.utf8EncodeChar c ↔ c = '\x00' := by
  constructor
  · intro h
    have hc : c.val.toNat = 0 := by
      simp only [String.utf8EncodeChar] at h
      split at h
      · simp only [List.mem_singleton,← UInt8.toNat_inj,UInt8.toNat_ofNat',UInt8.toNat_zero] at h
        omega
      · -- every byte of a longer encoding has its highest bit set
        split at h <;> try split at h
        all_goals
          simp only [List.mem_cons,List.not_mem_nil,or_false,← UInt8.toNat_inj,UInt8.toNat_ofNat',
            UInt8.toNat_zero] at h
          omega
    exact Char.ext (UInt32.toNat_inj.mp hc)
  · rintro rfl
    decide

theorem zero_mem_ofString {s : String} : 0 ∈ (ofString s).bytes ↔ '\x00' ∈ s.toList := by
  simp [bytes_ofString,zero_mem_utf8EncodeChar]

theorem follow?_high {lead : UInt8} {ranges : List (UInt8 × UInt8)}
    (h : follow? lead = some ranges) : ∀ r ∈ ranges, 0x80 ≤ r.1 := by
  unfold follow? at h
  split_ifs at h <;> (obtain rfl := Option.some.inj h; simp)

theorem takeTrail_append (ranges : List (UInt8 × UInt8)) (bs : List UInt8) :
    (takeTrail ranges bs).1 ++ (takeTrail ranges bs).2 = bs := by
  induction ranges generalizing bs with
  | nil => cases bs <;> rfl
  | cons r ranges ih =>
    cases bs with
    | nil => rfl
    | cons b bs =>
      have hrest := ih bs
      simp only [takeTrail]
      split <;> simp [hrest]

/-- The bytes that are taken lie in the ranges, one in each. -/
theorem takeTrail_within (ranges : List (UInt8 × UInt8)) (bs : List UInt8)
    (h : (takeTrail ranges bs).1.length = ranges.length) :
    List.Forall₂ (fun r b => r.1 ≤ b ∧ b ≤ r.2) ranges (takeTrail ranges bs).1 := by
  induction ranges generalizing bs with
  | nil => cases bs <;> exact .nil
  | cons r ranges ih =>
    cases bs with
    | nil => simp [takeTrail] at h
    | cons b bs =>
      simp only [takeTrail] at h ⊢
      split at h
      · rename_i hb
        rw [if_pos hb]
        exact .cons hb (ih bs (by simpa using h))
      · simp at h

theorem takeTrail_high (ranges : List (UInt8 × UInt8)) (bs : List UInt8)
    (h : ∀ r ∈ ranges, 0x80 ≤ r.1) : ∀ b ∈ (takeTrail ranges bs).1, 0x80 ≤ b := by
  induction ranges generalizing bs with
  | nil => cases bs <;> simp [takeTrail]
  | cons r ranges ih =>
    cases bs with
    | nil => simp [takeTrail]
    | cons b bs =>
      simp only [takeTrail]
      split
      · rename_i hb
        have hr : 0x80 ≤ r.1 := h r (by simp)
        have hrest := ih bs fun r hr => h r (by simp [hr])
        simpa using ⟨UInt8.le_trans hr hb.1,hrest⟩
      · simp

/-- A NUL is shown wherever its byte stands, also among bytes that are no text. -/
theorem nul_mem_pieces {bs : List UInt8} (h : 0 ∈ bs) : '\x00' ∈ (pieces bs).map Piece.shown := by
  fun_induction pieces bs with
  | case1 => simp at h
  | case2 lead bs hf ih =>
    have hlead : lead ≠ 0 := by
      rintro rfl
      simp [follow?] at hf
    have hbs : 0 ∈ bs := by simpa [hlead.symm] using h
    simp [ih hbs]
  | case3 lead bs ranges hf cut piece ih =>
    by_cases hlead : lead = 0
    · subst hlead
      obtain rfl : [] = ranges := by simpa [follow?] using hf
      have hcut : cut.1 = [] := by cases bs <;> rfl
      have hpiece : piece = .char '\x00' := by simp [piece,hcut,codePoint]
      simp [hpiece,Piece.shown]
    · have hbs : 0 ∈ cut.1 ++ cut.2 := by
        rw [takeTrail_append ranges bs]
        simpa [Ne.symm hlead] using h
      have htaken : 0 ∉ cut.1 := by
        intro hz
        exact absurd (takeTrail_high ranges bs (follow?_high hf) 0 hz) (by decide)
      have hrest : 0 ∈ cut.2 := (List.mem_append.mp hbs).resolve_left htaken
      simp [ih hrest]

theorem nul_mem_lossy {t : RawText} (h : 0 ∈ t.bytes) : '\x00' ∈ t.lossy.toList := by
  rw [lossy]
  split
  · rename_i s hs
    rw [← ofString_of_text? hs] at h
    exact zero_mem_ofString.mp h
  · rw [String.toList_ofList]
    exact nul_mem_pieces h

/-! ## ASCII beginnings -/

def IsAscii (c : Char) : Prop := 0 < c.toNat ∧ c.toNat < 0x80

def asciiBytes (cs : List Char) : List UInt8 := cs.map fun c => UInt8.ofNat c.toNat

theorem flatMap_utf8EncodeChar_of_isAscii {cs : List Char} (h : ∀ c ∈ cs, IsAscii c) :
    cs.flatMap String.utf8EncodeChar = asciiBytes cs := by
  induction cs with
  | nil => rfl
  | cons c cs ih =>
    have hc : c.val.toNat ≤ 127 := Nat.le_of_lt_succ (h c (by simp)).2
    have hrest := ih fun d hd => h d (by simp [hd])
    have hone : String.utf8EncodeChar c = [UInt8.ofNat c.toNat] := if_pos hc
    simp [hone,hrest,asciiBytes]

theorem codePoint_high {lead : UInt8} {ranges : List (UInt8 × UInt8)} {trail : List UInt8}
    (hf : follow? lead = some ranges) (hr : ranges ≠ [])
    (ht : List.Forall₂ (fun r b => r.1 ≤ b ∧ b ≤ r.2) ranges trail) :
    0x80 ≤ codePoint lead trail := by
  unfold follow? at hf
  split_ifs at hf with h₀ h₁ h₂ h₃ h₄ h₅ h₆ h₇
  case pos => exact absurd (Option.some.inj hf).symm hr
  all_goals
    obtain rfl := Option.some.inj hf
    simp only [List.forall₂_cons_left_iff,List.forall₂_nil_left_iff,UInt8.le_iff_toNat_le] at ht
    simp only [← UInt8.toNat_inj,UInt8.le_iff_toNat_le,UInt8.reduceToNat] at *
  · -- one byte follows
    obtain ⟨b,_,hb,rfl,rfl⟩ := ht
    show 0x80 ≤ lead.toNat % 0x20 * 0x40 + b.toNat % 0x40
    omega
  case pos | pos | pos =>
    -- two bytes follow
    obtain ⟨b,_,hb,⟨c,_,hc,rfl,rfl⟩,rfl⟩ := ht
    show 0x80 ≤ (lead.toNat % 0x10 * 0x40 + b.toNat % 0x40) * 0x40 + c.toNat % 0x40
    omega
  all_goals
    -- three bytes follow
    obtain ⟨b,_,hb,⟨c,_,hc,⟨d,_,hd,rfl,rfl⟩,rfl⟩,rfl⟩ := ht
    show 0x80 ≤ ((lead.toNat % 0x08 * 0x40 + b.toNat % 0x40) * 0x40 + c.toNat % 0x40) * 0x40 +
      d.toNat % 0x40
    omega

theorem toNat_ofNat_or (n : Nat) : (Char.ofNat n).toNat = n ∨ (Char.ofNat n).toNat = 0 := by
  by_cases h : n.isValidChar
  · exact .inl (by rw [Char.ofNat,dif_pos h]; rfl)
  · exact .inr (by rw [Char.ofNat,dif_neg h]; rfl)

theorem pieces_start {bs : List UInt8} {c : Char} {r : List Char} (hc : IsAscii c)
    (h : (pieces bs).map Piece.shown = c :: r) :
    ∃ rest, bs = UInt8.ofNat c.toNat :: rest ∧ (pieces rest).map Piece.shown = r := by
  have hpos : 0 < c.toNat := hc.1
  have hlow : c.toNat < 0x80 := hc.2
  have hjunk (bytes : List UInt8) : (Piece.junk bytes).shown ≠ c := by
    rintro rfl
    exact absurd hlow (by simp [Piece.shown])
  cases bs with
  | nil => simp [pieces] at h
  | cons lead bs =>
    rw [pieces] at h
    split at h
    · exact absurd (List.cons.inj h).1 (hjunk _)
    · rename_i ranges hf
      obtain ⟨hshown,hrest⟩ := List.cons.inj h
      split at hshown
      · rename_i hfull
        have hchar : Char.ofNat (codePoint lead (takeTrail ranges bs).1) = c := hshown
        have hcode := toNat_ofNat_or (codePoint lead (takeTrail ranges bs).1)
        rw [hchar] at hcode
        by_cases hr : ranges = []
        · subst hr
          have hcut : takeTrail [] bs = ([],bs) := by cases bs <;> rfl
          rw [hcut] at hcode hrest
          have hlead : c.toNat = lead.toNat := hcode.resolve_right (by omega)
          exact ⟨bs,by rw [hlead,UInt8.ofNat_toNat],hrest⟩
        · have hhigh := codePoint_high hf hr (takeTrail_within ranges bs hfull)
          omega
      · exact absurd hshown (hjunk _)

/-- What is shown first, if it is ASCII, is what the bytes begin with. -/
theorem lossy_start {t : RawText} {p r : List Char} (hp : ∀ c ∈ p, IsAscii c)
    (h : t.lossy.toList = p ++ r) :
    ∃ rest, t.bytes = asciiBytes p ++ rest ∧ (r = [] → rest = []) := by
  rw [lossy] at h
  split at h
  · rename_i s hs
    refine ⟨r.flatMap String.utf8EncodeChar,?_,by rintro rfl; rfl⟩
    rw [← ofString_of_text? hs,bytes_ofString,h,List.flatMap_append,
      flatMap_utf8EncodeChar_of_isAscii hp]
  · rw [String.toList_ofList] at h
    generalize t.bytes = bs at h ⊢
    induction p generalizing bs with
    | nil =>
      refine ⟨bs,rfl,?_⟩
      rintro rfl
      cases bs with
      | nil => rfl
      | cons b bs =>
        rw [pieces] at h
        split at h <;> simp at h
    | cons c p ih =>
      obtain ⟨rest,rfl,hrest⟩ := pieces_start (hp c (by simp)) h
      obtain ⟨more,rfl,hmore⟩ := ih (fun d hd => hp d (by simp [hd])) rest hrest
      exact ⟨more,rfl,hmore⟩

theorem pieces_behind {bs : List UInt8} {before behind : List Char}
    (h : (pieces bs).map Piece.shown = before ++ behind) :
    ∃ rest, rest <:+ bs ∧ (pieces rest).map Piece.shown = behind := by
  induction before generalizing bs with
  | nil => exact ⟨bs,List.suffix_rfl,h⟩
  | cons c before ih =>
    cases bs with
    | nil => simp [pieces] at h
    | cons lead bs =>
      rw [pieces] at h
      split at h
      · obtain ⟨rest,hrest,hshown⟩ := ih (List.cons.inj h).2
        exact ⟨rest,hrest.trans (List.suffix_cons lead bs),hshown⟩
      · rename_i ranges hf
        obtain ⟨rest,hrest,hshown⟩ := ih (List.cons.inj h).2
        have hcut : (takeTrail ranges bs).2 <:+ bs := ⟨_,takeTrail_append ranges bs⟩
        exact ⟨rest,(hrest.trans hcut).trans (List.suffix_cons lead bs),hshown⟩

theorem ascii_mem_bytes {t : RawText} {c : Char} (hc : IsAscii c) (h : c ∈ t.lossy.toList) :
    UInt8.ofNat c.toNat ∈ t.bytes := by
  rw [lossy] at h
  split at h
  · rename_i s hs
    have hone : [c].flatMap String.utf8EncodeChar = asciiBytes [c] :=
      flatMap_utf8EncodeChar_of_isAscii (by simpa using hc)
    rw [List.flatMap_singleton] at hone
    rw [← ofString_of_text? hs,bytes_ofString,List.mem_flatMap]
    exact ⟨c,h,by simp [hone,asciiBytes]⟩
  · rw [String.toList_ofList] at h
    obtain ⟨before,behind,hsplit⟩ := List.append_of_mem h
    obtain ⟨rest,hrest,hshown⟩ := pieces_behind hsplit
    obtain ⟨more,rfl,-⟩ := pieces_start hc hshown
    exact hrest.subset List.mem_cons_self

end MatrixHarness.RawText
