import MatrixHarness.Proofs.Text.Raw
import MatrixHarness.Reference

/-! # One pass over a path

A path is cut into its parts once, and each part is replaced on its own.  So a path that is made of
plain texts and of references between braces becomes its plain texts and the values of its
variables, whatever those hold, and it becomes nothing at all if one of them has no value. -/
namespace MatrixHarness.Reference

variable {env : Environment}

def Holds (env : Environment) (name text : String) : Prop :=
  ∃ v, env.get? name = some v ∧ v.text? = some text

theorem value_ok_iff {name text : String} : value env name = .ok text ↔ Holds env name text := by
  rcases hget : env.get? name with _ | v
  · simp [value,Holds,hget]
  · rcases htext : v.text? with _ | s <;> simp [value,Holds,hget,htext]

/-! ## Parts -/

theorem insert_error_iff {p : Part} {e : Unresolved} : p.insert env = .error e ↔
    ∃ name cause, p = .named name none ∧ value env (String.ofList name) = .error cause ∧
      e = ⟨String.ofList name,cause⟩ := by
  rcases p with text | ⟨name,_ | default⟩
  · simp [Part.insert]
  · rcases hv : value env (String.ofList name) with cause | s <;> simp [Part.insert,hv,eq_comm]
  · rcases hv : value env (String.ofList name) with cause | s <;> simp [Part.insert,hv]

theorem insertAll_append {xs ys : List Part} {text rest : List Char}
    (hx : insertAll env xs = .ok text) (hy : insertAll env ys = .ok rest) :
    insertAll env (xs ++ ys) = .ok (text ++ rest) := by
  induction xs generalizing text with
  | nil =>
    obtain rfl : [] = text := Except.ok.inj hx
    simpa using hy
  | cons p xs ih =>
    rcases hp : p.insert env with e | first
    · simp [insertAll,hp] at hx
    · rcases hxs : insertAll env xs with e | more
      · simp [insertAll,hp,hxs] at hx
      · obtain rfl : first ++ more = text := by simpa [insertAll,hp,hxs] using hx
        simp [insertAll,hp,ih hxs]

theorem insertAll_fails_iff {ps : List Part} : (∃ e, insertAll env ps = .error e) ↔
    ∃ p ∈ ps, ∃ e, p.insert env = .error e := by
  induction ps with
  | nil => simp [insertAll]
  | cons p ps ih =>
    rcases hp : p.insert env with e | text
    · have hfails : ∃ e, insertAll env (p :: ps) = .error e := ⟨e,by simp [insertAll,hp]⟩
      exact iff_of_true hfails ⟨p,by simp,e,hp⟩
    · have hcons : (∃ e, insertAll env (p :: ps) = .error e) ↔
          ∃ e, insertAll env ps = .error e := by
        rcases hps : insertAll env ps with e | rest <;> simp [insertAll,hp,hps]
      rw [hcons,ih]
      simp [hp]

/-! ## Paths -/

theorem expand_of_not_text {path : RawText} (h : path.text? = none) :
    expand env path = .ok path := by
  simp [expand,h]

theorem expand_ofString (env : Environment) (s : String) : expand env (RawText.ofString s) =
    (expandText env s.toList).map fun cs => RawText.ofString (String.ofList cs) := by
  rcases h : expandText env s.toList with e | cs <;> simp [expand,h,Except.map]

theorem expandText_error_iff {path : List Char} {e : Unresolved} :
    expandText env path = .error e ↔ insertAll env (parts path) = .error e := by
  rcases h : insertAll env (parts path) with e' | inserted
  · simp [expandText,h]
  · by_cases ht : path.head? ≠ some '~' ∧ inserted.head? = some '~' <;> simp [expandText,h,ht]

theorem expandText_of_ok {path inserted : List Char} (hp : path.head? ≠ some '~')
    (h : insertAll env (parts path) = .ok inserted) : expandText env path = .ok inserted := by
  by_cases ht : inserted.head? = some '~'
  · simp [expandText,h,hp,ht]
  · have hkeep : expandTilde env inserted = inserted := by
      rcases inserted with _ | ⟨c,rest⟩
      · rfl
      · have hc : c ≠ '~' := by simpa using ht
        simp [expandTilde,hc]
    simp [expandText,h,ht,hkeep]

theorem expandText_home {home : String} {path inserted : List Char} (hh : home? env = some home)
    (h : insertAll env (parts ('~' :: '/' :: path)) = .ok ('~' :: '/' :: inserted)) :
    expandText env ('~' :: '/' :: path) = .ok (home.toList ++ '/' :: inserted) := by
  simp [expandText,h,expandTilde,hh]

/-- A path fails just if it is text and refers to a variable without a value, with no default. -/
theorem expand_fails_iff {path : RawText} : (∃ e, expand env path = .error e) ↔
    ∃ s name, path.text? = some s ∧ .named name none ∈ parts s.toList ∧
      ¬∃ text, Holds env (String.ofList name) text := by
  rcases hs : path.text? with _ | s
  · simp [expand_of_not_text hs]
  · have hvalue (name : List Char) : (∃ cause, value env (String.ofList name) = .error cause) ↔
        ¬∃ text, Holds env (String.ofList name) text := by
      rcases hv : value env (String.ofList name) with cause | text <;> simp [← value_ok_iff,hv]
    have hfails :
        (∃ e, expand env path = .error e) ↔ ∃ e, insertAll env (parts s.toList) = .error e := by
      rw [← RawText.ofString_of_text? hs,expand_ofString]
      simp only [← expandText_error_iff]
      rcases expandText env s.toList with e | cs <;> simp [Except.map]
    rw [hfails,insertAll_fails_iff]
    simp only [insert_error_iff,← hvalue]
    constructor
    · rintro ⟨p,hp,e,name,cause,rfl,hcause,-⟩
      exact ⟨s,name,rfl,hp,cause,hcause⟩
    · rintro ⟨_,name,⟨⟩,hp,cause,hcause⟩
      exact ⟨_,hp,_,name,cause,rfl,hcause,rfl⟩

/-! ## Pieces -/

/-- A piece of a path: a text, or a reference to a variable. -/
inductive Piece where
  | plain (text : List Char)
  | reference (name : List Char)

namespace Piece

/-- A plain text has no dollar, and a reference a name. -/
def Proper : Piece → Prop
  | plain text => '$' ∉ text
  | reference name => name ≠ [] ∧ ∀ c ∈ name, isNameChar c = true

def written : Piece → List Char
  | plain text => text
  | reference name => '$' :: '\x7b' :: (name ++ ['\x7d'])

def parts : Piece → List Part
  | plain text => text.map fun c => .literal [c]
  | reference name => [.named name none]

def filled (values : String → String) : Piece → List Char
  | plain text => text
  | reference name => (values (String.ofList name)).toList

end Piece

theorem parts_cons_of_ne {c : Char} (hc : c ≠ '$') (r : List Char) :
    parts (c :: r) = .literal [c] :: parts r := by
  rw [parts]
  all_goals simp [hc]

theorem parts_plain {text : List Char} (h : '$' ∉ text) (rest : List Char) :
    parts (text ++ rest) = (text.map fun c => .literal [c]) ++ parts rest := by
  induction text with
  | nil => rfl
  | cons c text ih =>
    have hc : c ≠ '$' := fun he => h (by simp [he])
    have htext : '$' ∉ text := fun hm => h (by simp [hm])
    rw [List.cons_append,parts_cons_of_ne hc,ih htext]
    rfl

theorem splitBrace?_append {name : List Char} (h : '\x7d' ∉ name) (rest : List Char) :
    splitBrace? (name ++ '\x7d' :: rest) = some (name,rest) := by
  induction name with
  | nil => rfl
  | cons c name ih =>
    have hc : c ≠ '\x7d' := fun he => h (by simp [he])
    have hname : '\x7d' ∉ name := fun hm => h (by simp [hm])
    simp [splitBrace?,ih hname]

theorem splitDefault?_of_notMem {name : List Char} (h : ':' ∉ name) :
    splitDefault? name = none := by
  induction name with
  | nil => rfl
  | cons c name ih =>
    have hc : c ≠ ':' := fun he => h (by simp [he])
    have hname : ':' ∉ name := fun hm => h (by simp [hm])
    simp [splitDefault?,hc,ih hname]

theorem parts_reference {name : List Char} (h : ∀ c ∈ name, isNameChar c = true)
    (rest : List Char) :
    parts ((Piece.reference name).written ++ rest) = .named name none :: parts rest := by
  have hbrace : '\x7d' ∉ name := fun hm => absurd (h _ hm) (by decide)
  have hcolon : ':' ∉ name := fun hm => absurd (h _ hm) (by decide)
  have hwritten : (Piece.reference name).written ++ rest =
      '$' :: '\x7b' :: (name ++ '\x7d' :: rest) := by simp [Piece.written]
  rw [hwritten,parts,splitBrace?_append hbrace]
  simp [braced,splitDefault?_of_notMem hcolon]

/-- A composed path is cut where it was put together. -/
theorem parts_written {ps : List Piece} (h : ∀ p ∈ ps, p.Proper) :
    parts (ps.flatMap Piece.written) = ps.flatMap Piece.parts := by
  induction ps with
  | nil => simp [parts]
  | cons p ps ih =>
    have hps := ih fun q hq => h q (by simp [hq])
    have hp := h p (by simp)
    rw [List.flatMap_cons,List.flatMap_cons,← hps]
    cases p with
    | plain text => exact parts_plain hp _
    | reference name => exact parts_reference hp.2 _

def Defined (env : Environment) (values : String → String) (ps : List Piece) : Prop :=
  ∀ name, .reference name ∈ ps → Holds env (String.ofList name) (values (String.ofList name))

theorem insertAll_plain (env : Environment) (text : List Char) :
    insertAll env (text.map fun c => .literal [c]) = .ok text := by
  induction text with
  | nil => rfl
  | cons c text ih => simp [insertAll,Part.insert,ih]

theorem insertAll_reference {name : List Char} {text : String}
    (h : Holds env (String.ofList name) text) :
    insertAll env [.named name none] = .ok text.toList := by
  simp [insertAll,Part.insert,value_ok_iff.mpr h]

theorem insertAll_parts {values : String → String} {ps : List Piece} (h : Defined env values ps) :
    insertAll env (ps.flatMap Piece.parts) = .ok (ps.flatMap (Piece.filled values)) := by
  induction ps with
  | nil => rfl
  | cons p ps ih =>
    have hps := ih fun name hm => h name (by simp [hm])
    rw [List.flatMap_cons,List.flatMap_cons]
    refine insertAll_append ?_ hps
    cases p with
    | plain text => exact insertAll_plain env text
    | reference name => exact insertAll_reference (h name (by simp))

/-- The beginning of a path below the home directory is one more piece, a plain text. -/
theorem written_below (ps : List Piece) : "~/" ++ String.ofList (ps.flatMap Piece.written) =
    String.ofList ((Piece.plain ['~','/'] :: ps).flatMap Piece.written) := by
  apply String.toList_inj.mp
  simp [Piece.written]

section Composed

variable {values : String → String} {ps : List Piece} (hproper : ∀ p ∈ ps, p.Proper)
include hproper

theorem expand_composed (hdefined : Defined env values ps)
    (htilde : (ps.flatMap Piece.written).head? ≠ some '~') :
    expand env (RawText.ofString (String.ofList (ps.flatMap Piece.written))) =
      .ok (RawText.ofString (String.ofList (ps.flatMap (Piece.filled values)))) := by
  have hinserted : insertAll env (parts (ps.flatMap Piece.written)) =
      .ok (ps.flatMap (Piece.filled values)) := by
    rw [parts_written hproper]
    exact insertAll_parts hdefined
  rw [expand_ofString,String.toList_ofList,expandText_of_ok htilde hinserted]
  rfl

theorem proper_below : ∀ p ∈ Piece.plain ['~','/'] :: ps, p.Proper := by
  intro p hp
  rcases List.mem_cons.mp hp with rfl | hp
  · simp [Piece.Proper]
  · exact hproper p hp

theorem expand_composed_home {home : String} (hh : home? env = some home)
    (hdefined : Defined env values ps) :
    expand env (RawText.ofString ("~/" ++ String.ofList (ps.flatMap Piece.written))) =
      .ok (RawText.ofString (home ++ "/" ++ String.ofList (ps.flatMap (Piece.filled values)))) := by
  have hbelow : Defined env values (.plain ['~','/'] :: ps) := by
    intro name hm
    exact hdefined name (by simpa using hm)
  have hinserted := insertAll_parts hbelow
  rw [← parts_written (proper_below hproper)] at hinserted
  have hfilled : home ++ "/" ++ String.ofList (ps.flatMap (Piece.filled values)) =
      String.ofList (home.toList ++ '/' :: ps.flatMap (Piece.filled values)) := by
    apply String.toList_inj.mp
    simp
  have hpath : (Piece.plain ['~','/'] :: ps).flatMap Piece.written =
      '~' :: '/' :: ps.flatMap Piece.written := rfl
  rw [hpath] at hinserted
  have htext := expandText_home hh hinserted
  rw [written_below,expand_ofString,String.toList_ofList,hpath,htext,hfilled]
  rfl

theorem expand_undefined (h : ∃ name, .reference name ∈ ps ∧ env.get? (String.ofList name) = none) :
    ∃ e, expand env (RawText.ofString (String.ofList (ps.flatMap Piece.written))) = .error e := by
  obtain ⟨name,hm,hnone⟩ := h
  apply expand_fails_iff.mpr
  refine ⟨_,name,RawText.text?_ofString _,?_,?_⟩
  · rw [String.toList_ofList,parts_written hproper,List.mem_flatMap]
    exact ⟨_,hm,by simp [Piece.parts]⟩
  · rintro ⟨text,v,hv,-⟩
    simp [hnone] at hv

end Composed

theorem expand_of_plain {path : RawText} {s : String} (hs : path.text? = some s)
    (hdollar : '$' ∉ s.toList) (htilde : s.toList.head? ≠ some '~') :
    expand env path = .ok path := by
  have hparts : parts s.toList = s.toList.map fun c => .literal [c] := by
    simpa [parts] using parts_plain hdollar []
  have htext := expandText_of_ok htilde (hparts ▸ insertAll_plain env s.toList)
  rw [← RawText.ofString_of_text? hs,expand_ofString,htext,Except.map,String.ofList_toList]

/-- The account of a failed expansion begins with the path as it was written. -/
theorem accounts_trail (e : Unresolved) (locale : String) (path : RawText) :
    ∃ before, (e.trail locale path).accounts.head? = some (.worded (before ++ path.lossy)) := by
  rcases h : Language.ofLocale locale with _ | _
  · exact ⟨"Failed to expand path: ",by simp [Unresolved.trail,Trail.accounts,Message.text,h]; rfl⟩
  · exact ⟨"展开路径失败: ",by simp [Unresolved.trail,Trail.accounts,Message.text,h]; rfl⟩

/-- With a home directory, a path that is no text stays as it is, and so does one with neither a
dollar nor a `~` at its beginning.  A path that is put together from texts and references becomes
the same texts put together with the values, just as those are, also behind `~/`, which alone is
replaced by the home directory.  If any of the variables is undefined there is no path, but an error
that begins with the path as it was written. -/
theorem expand_onePass (env : Environment) {v : RawText} {home : String}
    (hhome : env.get? "HOME" = some v) (htext : v.text? = some home) (hne : home ≠ "") :
    (∀ path : RawText, path.text? = none → expand env path = .ok path) ∧
    (∀ (path : RawText) s, path.text? = some s → '$' ∉ s.toList → s.toList.head? ≠ some '~' →
      expand env path = .ok path) ∧
    ∀ pieces : List Piece, (∀ p ∈ pieces, p.Proper) →
      let written := String.ofList (pieces.flatMap Piece.written)
      (∀ values, Defined env values pieces →
        let filled := String.ofList (pieces.flatMap (Piece.filled values))
        (written.toList.head? ≠ some '~' →
          expand env (RawText.ofString written) = .ok (RawText.ofString filled)) ∧
        expand env (RawText.ofString ("~/" ++ written)) =
          .ok (RawText.ofString (home ++ "/" ++ filled))) ∧
      ((∃ name, .reference name ∈ pieces ∧ env.get? (String.ofList name) = none) →
        ∀ path ∈ [written,"~/" ++ written], ∃ e,
          expand env (RawText.ofString path) = .error e ∧
          ∀ locale, ∃ before, (e.trail locale (RawText.ofString path)).accounts.head? =
            some (.worded (before ++ path))) := by
  have hhome' : home? env = some home := by
    simp [home?,Environment.text?,hhome,htext,hne]
  refine ⟨fun path h => expand_of_not_text h,fun path s hs => expand_of_plain hs,?_⟩
  intro pieces hproper written
  constructor
  · intro values hdefined filled
    constructor
    · intro htilde
      exact expand_composed hproper hdefined (by simpa [written] using htilde)
    · exact expand_composed_home hproper hhome' hdefined
  · rintro ⟨name,hm,hnone⟩ path hpath
    have hfails : ∃ e, expand env (RawText.ofString path) = .error e := by
      rcases List.mem_cons.mp hpath with rfl | hpath
      · exact expand_undefined hproper ⟨name,hm,hnone⟩
      · rw [List.mem_singleton.mp hpath,written_below]
        exact expand_undefined (proper_below hproper) ⟨name,by simp [hm],hnone⟩
    obtain ⟨e,he⟩ := hfails
    refine ⟨e,he,fun locale => ?_⟩
    simpa using accounts_trail e locale (RawText.ofString path)

/-- Values that look like references and like a home directory, and a variable that is not there. -/
theorem expand_onePass_nested :
    let env : Environment := ⟨[("HOME",RawText.ofString "/root"),("A",RawText.ofString "~$A"),
      ("B_1",RawText.ofString "$\x7bA\x7d")]⟩
    let path := "$\x7bA\x7d/x$\x7bB_1\x7d"
    env.get? "HOME" = some (RawText.ofString "/root") ∧
      expand env (RawText.ofString path) = .ok (RawText.ofString "~$A/x$\x7bA\x7d") ∧
      expand env (RawText.ofString ("~/" ++ path)) =
        .ok (RawText.ofString "/root/~$A/x$\x7bA\x7d") ∧
      ∃ e, expand env (RawText.ofString "x$\x7bC\x7d") = .error e := by
  intro env path
  have hhome : env.get? "HOME" = some (RawText.ofString "/root") := by decide
  have ha : env.get? "A" = some (RawText.ofString "~$A") := by decide
  have hb : env.get? "B_1" = some (RawText.ofString "$\x7bA\x7d") := by decide
  have hc : env.get? "C" = none := by decide
  let pieces : List Piece := [.reference ['A'],.plain ['/','x'],.reference ['B','_','1']]
  have hchars : ['A','B','_','1','C'].all isNameChar = true := by decide
  have hproper : ∀ p ∈ pieces, p.Proper := by
    simp only [List.all_cons,Bool.and_eq_true] at hchars
    simp [pieces,Piece.Proper,hchars]
  have hdefined : Defined env (fun name => if name = "A" then "~$A" else "$\x7bA\x7d") pieces := by
    intro name hm
    have hname : name = ['A'] ∨ name = ['B','_','1'] := by simpa [pieces] using hm
    rcases hname with rfl | rfl
    · exact ⟨_,ha,RawText.text?_ofString _⟩
    · exact ⟨_,hb,RawText.text?_ofString _⟩
  obtain ⟨-,-,h⟩ := expand_onePass env hhome (RawText.text?_ofString "/root") (by decide)
  obtain ⟨hfound,-⟩ := h pieces hproper
  obtain ⟨hpath,hbelow⟩ := hfound _ hdefined
  have hmissing : ∀ p ∈ [Piece.plain ['x'],.reference ['C']], p.Proper := by
    simp only [List.all_cons,Bool.and_eq_true] at hchars
    simp [Piece.Proper,hchars]
  obtain ⟨-,hundefined⟩ := h _ hmissing
  obtain ⟨e,he,-⟩ := hundefined ⟨['C'],by simp,hc⟩ _ List.mem_cons_self
  exact ⟨hhome,hpath (by decide),hbelow,e,he⟩

end MatrixHarness.Reference
