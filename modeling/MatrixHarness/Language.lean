/-! # Languages

The languages that texts are written in, and which of them a locale speaks.  A locale that has no
texts of its own speaks the language of the locale without its last part, and in the end English. -/
namespace MatrixHarness

inductive Language where
  | english
  | chinese
  deriving DecidableEq

namespace Language

def ofTag? (tag : String) : Option Language :=
  if tag = "en" then some english else if tag = "zh-CN" then some chinese else none

/-- Drops `-x` from the end, as often as it stands there; the tag is read backwards. -/
def dropPrivate : List Char → List Char
  | 'x' :: '-' :: r => dropPrivate r
  | r => r

theorem dropPrivate_length_le (r : List Char) : (dropPrivate r).length ≤ r.length := by
  fun_induction dropPrivate r with
  | case1 r ih => simp only [List.length_cons]; omega
  | case2 r => exact Nat.le_refl _

/-- A tag without its last part, both read backwards; none if it has one part only. -/
def parent? (backwards : List Char) : Option (List Char) :=
  match backwards.dropWhile (· != '-') with
  | [] => none
  | _ :: r => some (dropPrivate r)

theorem parent?_length {s r : List Char} (h : parent? s = some r) : r.length < s.length := by
  simp only [parent?] at h
  split at h
  · simp at h
  · rename_i c t ht
    have hd := dropPrivate_length_le t
    have hs := (List.dropWhile_sublist (p := (· != '-')) (l := s)).length_le
    rw [ht] at hs
    simp only [Option.some.injEq] at h
    subst h
    simp only [List.length_cons] at hs
    omega

def ofBackwards (backwards : List Char) : Language :=
  match ofTag? (String.ofList backwards.reverse) with
  | some l => l
  | none =>
    match _h : parent? backwards with
    | some r => ofBackwards r
    | none => english
termination_by backwards.length
decreasing_by exact parent?_length _h

def ofLocale (locale : String) : Language := ofBackwards locale.toList.reverse

end Language
end MatrixHarness
