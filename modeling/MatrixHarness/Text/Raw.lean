/-! # Raw text

Paths, arguments and the values of variables as the operating system keeps them: bytes that are
usually, but not always, UTF-8.  `text?` reads them as text, `lossy` shows them in any case, and
`pieces` is the decoding that both the lossy and the quoted form rest on. -/
namespace MatrixHarness

structure RawText where
  bytes : List UInt8
  deriving DecidableEq, Inhabited

namespace RawText

def ofString (s : String) : RawText := ⟨s.toByteArray.data.toList⟩

/-- The text that the bytes encode, if they are UTF-8. -/
def text? (t : RawText) : Option String := String.fromUTF8? ⟨t.bytes.toArray⟩

@[simp] theorem text?_ofString (s : String) : (ofString s).text? = some s := by
  have h : (ofString s).text? = String.fromUTF8? s.toByteArray := rfl
  have v : s.toByteArray.IsValidUTF8 := s.isValidUTF8
  rw [h,String.fromUTF8?,dif_pos v]
  rfl

instance : Append RawText := ⟨fun a b => ⟨a.bytes ++ b.bytes⟩⟩

@[simp] theorem bytes_append (a b : RawText) : (a ++ b).bytes = a.bytes ++ b.bytes := rfl

theorem ofString_append (s t : String) : ofString (s ++ t) = ofString s ++ ofString t := by
  show RawText.mk _ = RawText.mk _
  simp [ofString]

/-- A character, or a run of bytes that begins one and does not finish it. -/
inductive Piece where
  | char (c : Char)
  | junk (bytes : List UInt8)

/-- The ranges that the bytes after a lead byte must lie in; none if no character starts so. -/
def follow? (lead : UInt8) : Option (List (UInt8 × UInt8)) :=
  if lead < 0x80 then some []
  else if 0xC2 ≤ lead ∧ lead ≤ 0xDF then some [(0x80,0xBF)]
  else if lead = 0xE0 then some [(0xA0,0xBF),(0x80,0xBF)]
  else if lead = 0xED then some [(0x80,0x9F),(0x80,0xBF)]
  else if 0xE1 ≤ lead ∧ lead ≤ 0xEF then some [(0x80,0xBF),(0x80,0xBF)]
  else if lead = 0xF0 then some [(0x90,0xBF),(0x80,0xBF),(0x80,0xBF)]
  else if 0xF1 ≤ lead ∧ lead ≤ 0xF3 then some [(0x80,0xBF),(0x80,0xBF),(0x80,0xBF)]
  else if lead = 0xF4 then some [(0x80,0x8F),(0x80,0xBF),(0x80,0xBF)]
  else none

/-- As many bytes as lie in the given ranges, one range a byte; then the rest. -/
def takeTrail : List (UInt8 × UInt8) → List UInt8 → List UInt8 × List UInt8
  | (lo,hi) :: ranges, b :: bs =>
    if lo ≤ b ∧ b ≤ hi then
      let (taken,rest) := takeTrail ranges bs
      (b :: taken,rest)
    else ([],b :: bs)
  | _, bs => ([],bs)

theorem takeTrail_rest_le (ranges : List (UInt8 × UInt8)) (bs : List UInt8) :
    (takeTrail ranges bs).2.length ≤ bs.length := by
  induction ranges generalizing bs with
  | nil => cases bs <;> simp [takeTrail]
  | cons r ranges ih =>
    cases bs with
    | nil => simp [takeTrail]
    | cons b bs =>
      have := ih bs
      simp only [takeTrail]
      split
      · simp only [List.length_cons]; omega
      · simp

/-- The code point of a lead byte and the bytes after it. -/
def codePoint (lead : UInt8) (trail : List UInt8) : Nat :=
  let high := match trail.length with
    | 0 => lead.toNat
    | 1 => lead.toNat % 0x20
    | 2 => lead.toNat % 0x10
    | _ => lead.toNat % 0x08
  trail.foldl (fun n b => n * 0x40 + b.toNat % 0x40) high

/-- The characters of the bytes, and between them the longest runs that belong to none. -/
def pieces : List UInt8 → List Piece
  | [] => []
  | lead :: bs =>
    match follow? lead with
    | none => .junk [lead] :: pieces bs
    | some ranges =>
      let cut := takeTrail ranges bs
      let piece :=
        if cut.1.length = ranges.length then .char (Char.ofNat (codePoint lead cut.1))
        else .junk (lead :: cut.1)
      piece :: pieces cut.2
termination_by bs => bs.length
decreasing_by
  · simp
  · have := takeTrail_rest_le ranges bs
    simp only [List.length_cons]
    omega

def Piece.shown : Piece → Char
  | .char c => c
  | .junk _ => Char.ofNat 0xFFFD

/-- The text of the bytes; what is not UTF-8 is shown by one replacement character a run. -/
def lossy (t : RawText) : String :=
  match t.text? with
  | some s => s
  | none => String.ofList ((pieces t.bytes).map Piece.shown)

@[simp] theorem lossy_ofString (s : String) : (ofString s).lossy = s := by
  simp [lossy]

end RawText
end MatrixHarness
