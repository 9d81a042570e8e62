import Mathlib.Data.List.Nodup
import MatrixHarness.Proofs.Arguments.Spelling

/-! # The language at a glance

The language that a glance at a command line finds is the one that a command line stores that is
accepted.  A word says nothing of the language if it is neither the flag nor begins with the flag
and an equals sign, and of the words of an accepted line only those of the flag itself say
something. -/
namespace MatrixHarness.Arguments

def Silent (w : RawText) : Prop :=
  w.lossy ≠ "--lang" ∧ Text.after? "--lang=".toList w.lossy.toList = none

theorem silent_of_bytes {w : RawText} (hn : w ≠ RawText.ofString "--lang")
    (hp : ¬(RawText.ofString "--lang=").bytes <+: w.bytes) : Silent w := by
  constructor
  · intro h
    have hlossy : w.lossy.toList = "--lang".toList ++ [] := by rw [h,List.append_nil]
    obtain ⟨rest,hw,hrest⟩ := RawText.lossy_start (by simp [RawText.IsAscii]) hlossy
    rw [hrest rfl,List.append_nil] at hw
    exact hn (RawText.eq_of_bytes hw)
  · rw [Option.eq_none_iff_forall_ne_some]
    intro r h
    obtain ⟨rest,hw,-⟩ :=
      RawText.lossy_start (by simp [RawText.IsAscii]) (Text.after?_eq_some_iff.mp h)
    exact hp ⟨rest,hw.symm⟩

theorem silent_of_start {w : RawText} (h : ∀ bs, w.bytes ≠ dash :: dash :: 0x6c :: bs) :
    Silent w := by
  refine silent_of_bytes ?_ ?_
  · rintro rfl
    exact h _ rfl
  · rintro ⟨rest,hw⟩
    exact h _ hw.symm

theorem silent_of_plain {w : RawText} (h : Shape.of w = .plain) : Silent w := by
  refine silent_of_start fun bs hw => ?_
  simp [Shape.of,hw] at h

theorem silent_dashes : Silent (RawText.ofString "--") := silent_of_start fun _ h => by
  rw [bytes_dashes] at h
  simp at h

theorem bytes_flagName {f : Flag} (hf : f ≠ .lang) :
    ∃ b bs, (RawText.ofString f.name).bytes = b :: bs ∧ b ≠ 0x6c := by
  cases f
  case lang => exact absurd rfl hf
  all_goals exact ⟨_,_,rfl,by decide⟩

theorem silent_flagName {f : Flag} {w : RawText} (hf : f ≠ .lang)
    (hw : (RawText.ofString ("--" ++ f.name)).bytes <+: w.bytes) : Silent w := by
  obtain ⟨b,bs,hname,hb⟩ := bytes_flagName hf
  obtain ⟨more,hmore⟩ := hw
  refine silent_of_start fun rest hrest => hb ?_
  rw [← hmore,RawText.ofString_append,RawText.bytes_append,bytes_dashes,hname] at hrest
  simp only [List.cons_append,List.nil_append,List.cons.injEq] at hrest
  exact hrest.2.2.1

theorem silent_letter {w : RawText} (hw : (RawText.ofString "-c").bytes <+: w.bytes) :
    Silent w := by
  obtain ⟨more,hmore⟩ := hw
  refine silent_of_start fun rest hrest => ?_
  have hbytes : (RawText.ofString "-c").bytes = [dash,0x63] := rfl
  rw [← hmore,hbytes] at hrest
  simp [dash] at hrest

theorem Spelled.silent {i : Item} {words : List RawText} (h : Spelled i words)
    (hi : i.flag ≠ .lang) : ∀ w ∈ words, Silent w := by
  intro w hw
  cases h with
  | @joined f v hf =>
    obtain rfl := List.mem_singleton.mp hw
    refine silent_flagName (f := f) hi ?_
    rw [RawText.ofString_append,RawText.bytes_append,RawText.bytes_append]
    exact (List.prefix_append _ _).trans (List.prefix_append _ _)
  | @apart f v hf hv =>
    simp only [List.mem_cons,List.not_mem_nil,or_false] at hw
    rcases hw with rfl | rfl
    · exact silent_flagName (f := f) hi List.prefix_rfl
    · exact silent_of_plain hv
  | lettered hb =>
    obtain rfl := List.mem_singleton.mp hw
    exact silent_letter (List.prefix_append _ _)
  | letteredEquals v =>
    obtain rfl := List.mem_singleton.mp hw
    exact silent_letter ⟨equals :: v.bytes,rfl⟩
  | letteredApart hv =>
    simp only [List.mem_cons,List.not_mem_nil,or_false] at hw
    rcases hw with rfl | rfl
    · exact silent_letter List.prefix_rfl
    · exact silent_of_plain hv
  | fast =>
    obtain rfl := List.mem_singleton.mp hw
    exact silent_flagName (f := .fast) hi List.prefix_rfl

theorem Line.silent {is : List Item} {words : List RawText} (h : Line is words)
    (hi : ∀ i ∈ is, i.flag ≠ .lang) : ∀ w ∈ words, Silent w := by
  induction h with
  | done => simp
  | stop => simpa using silent_dashes
  | item hs hl ih =>
    intro w hw
    rcases List.mem_append.mp hw with hw | hw
    · exact hs.silent (hi _ (by simp)) w hw
    · exact ih (fun j hj => hi j (by simp [hj])) w hw

/-! ## Glances -/

section glance

variable {before after : List RawText}

theorem dropWhile_silent (hb : ∀ w ∈ before, Silent w) (rest : List String) :
    (before.map RawText.lossy ++ rest).dropWhile (· != "--lang") =
      rest.dropWhile (· != "--lang") := by
  refine List.dropWhile_append_of_pos ?_
  intro s hs
  obtain ⟨w,hw,rfl⟩ := List.mem_map.mp hs
  simpa using (hb w hw).1

theorem findSome?_silent (hb : ∀ w ∈ before, Silent w) :
    (before.map RawText.lossy).findSome? (fun w =>
      (Text.after? "--lang=".toList w.toList).map String.ofList) = none := by
  refine List.findSome?_eq_none_iff.mpr fun s hs => ?_
  obtain ⟨w,hw,rfl⟩ := List.mem_map.mp hs
  rw [(hb w hw).2,Option.map_none]

theorem glanceLanguage_silent (hb : ∀ w ∈ before, Silent w) :
    glanceLanguage (before.map RawText.lossy) = none := by
  have hdrop := dropWhile_silent hb []
  rw [List.append_nil] at hdrop
  rw [glanceLanguage,hdrop]
  exact findSome?_silent hb

theorem glanceLanguage_apart (hb : ∀ w ∈ before, Silent w) (v : RawText) :
    glanceLanguage ((before ++ RawText.ofString "--lang" :: v :: after).map RawText.lossy) =
      some v.lossy := by
  rw [glanceLanguage,List.map_append,dropWhile_silent hb]
  simp

theorem glanceLanguage_joined (hb : ∀ w ∈ before, Silent w) (ha : ∀ w ∈ after, Silent w)
    (s : String) :
    glanceLanguage ((before ++ RawText.ofString ("--lang=" ++ s) :: after).map RawText.lossy) =
      some s := by
  have hword : "--lang=" ++ s ≠ "--lang" := by
    intro h
    have hlength := congrArg String.length h
    have hlong : "--lang=".length = 7 := rfl
    have hshort : "--lang".length = 6 := rfl
    rw [String.length_append] at hlength
    omega
  have hdrop := dropWhile_silent ha []
  rw [List.append_nil] at hdrop
  have hafter : Text.after? "--lang=".toList ("--lang=" ++ s).toList = some s.toList := by
    rw [Text.after?_eq_some_iff,String.toList_append]
  rw [glanceLanguage,List.map_append,dropWhile_silent hb,List.map_cons,RawText.lossy_ofString,
    List.dropWhile_cons_of_pos (by simpa using hword),hdrop]
  simp only [List.dropWhile_nil,List.findSome?_append,findSome?_silent hb,Option.none_or]
  rw [List.findSome?_cons,hafter]
  simp [String.ofList_toList]

end glance

theorem glanceLanguage_spelled {before words after : List RawText} {v : RawText} {s : String}
    (hw : Spelled (.valued .lang v) words) (hv : v.text? = some s)
    (hb : ∀ w ∈ before, Silent w) (ha : ∀ w ∈ after, Silent w) :
    glanceLanguage ((before ++ (words ++ after)).map RawText.lossy) = some s := by
  have hlossy : v.lossy = s := by rw [RawText.lossy,hv]
  cases hw with
  | joined v hf =>
    have hword : RawText.ofString ("--" ++ Flag.lang.name ++ "=") ++ v =
        RawText.ofString ("--lang=" ++ s) := by
      rw [RawText.ofString_append "--lang=" s,RawText.ofString_of_text? hv]
      rfl
    rw [hword]
    exact glanceLanguage_joined hb ha s
  | apart hf hp =>
    rw [← hlossy]
    exact glanceLanguage_apart hb v

/-- A line that is accepted stores the language that a glance finds. -/
theorem glanceLanguage_line {first : RawText} {words : List RawText} {is : List Item} {last : State}
    (hf : Silent first) (hl : Line is words) (ht : takeAll? {} is = some last) :
    glanceLanguage ((first :: words).map RawText.lossy) = last.lang := by
  have hfirst {before : List RawText} (hb : ∀ w ∈ before, Silent w) :
      ∀ w ∈ first :: before, Silent w := by
    intro w hw
    rcases List.mem_cons.mp hw with rfl | hw
    · exact hf
    · exact hb w hw
  by_cases hlang : Flag.lang ∈ is.map Item.flag
  · -- the flag stands in one place, and everything around it is silent
    obtain ⟨i,hi,hflag⟩ := List.mem_map.mp hlang
    obtain ⟨before,after,rfl⟩ := List.append_of_mem hi
    obtain ⟨hused,hnodup⟩ := takeAll?_used ht
    have hother : ∀ j ∈ before ++ after, j.flag ≠ .lang := by
      intro j hj hjl
      have hone := hnodup List.nodup_nil
      rw [hused,List.nil_append,List.map_append,List.map_cons,List.nodup_middle,List.nodup_cons,
        ← List.map_append] at hone
      exact hone.1 (List.mem_map.mpr ⟨j,hj,hjl.trans hflag.symm⟩)
    obtain ⟨xs,ys,zs,rfl,hx,hy,hz⟩ := hl.split
    rw [takeAll?_append] at ht
    obtain ⟨st,hbefore,ht⟩ := Option.bind_eq_some_iff.mp ht
    rw [takeAll?_cons] at ht
    obtain ⟨next,htake,hafter⟩ := Option.bind_eq_some_iff.mp ht
    rcases i with ⟨f,v⟩ | _
    · obtain rfl : f = .lang := hflag
      obtain ⟨-,w,hw,hk⟩ := give_eq_none (Item.take?_valued.mp htake)
      obtain rfl := Option.some.inj hw
      obtain ⟨s,hs,hnext⟩ := keep_lang hk
      rw [takeAll?_lang hafter fun j hj => hother j (by simp [hj]),hnext]
      have hxs := hfirst (hx.silent fun j hj => hother j (by simp [hj]))
      have hzs := hz.silent fun j hj => hother j (by simp [hj])
      exact glanceLanguage_spelled hy hs hxs hzs
    · simp [Item.flag] at hflag
  · have hother : ∀ i ∈ is, i.flag ≠ .lang := fun i hi hl =>
      hlang (List.mem_map.mpr ⟨i,hi,hl⟩)
    rw [takeAll?_lang ht hother]
    exact glanceLanguage_silent (hfirst (hl.silent hother))

theorem read_run {words : List RawText} {i : Invocation} {lang : Option String}
    (h : read words = .run i lang) :
    ∃ is last, Line is words.tail ∧ takeAll? {} is = some last ∧ last.invocation? = some i ∧
      last.lang = lang := by
  unfold read at h
  cases hread : readFrom {} words.tail with
  | help => simp [hread] at h
  | version => simp [hread] at h
  | refused r => simp [hread] at h
  | accepted last =>
    obtain ⟨⟨is,he,ht⟩,-⟩ := readFrom_course hread
    cases he with
    | settled hl =>
      cases hi : last.invocation? with
      | none => simp [hread,hi] at h
      | some i' =>
        simp only [hread,hi,Answer.run.injEq] at h
        obtain ⟨rfl,rfl⟩ := h
        exact ⟨is,last,hl,ht,hi,rfl⟩

theorem readLong_name {f : Flag} (hf : f.takesValue = true) (value : Option RawText) (st : State) :
    readLong (RawText.ofString f.name).bytes value st =
      value.elim (await f st) (giveNow f · st) := by
  have htext : RawText.text? ⟨(RawText.ofString f.name).bytes⟩ = some f.name :=
    RawText.text?_ofString f.name
  cases value <;> simp [readLong,htext,hf]

/-- If a command line is accepted, a glance at it finds the language that it stores, whatever bytes
its words are: so no value of another flag, no word behind two dashes and no second spelling of the
flag is taken for it.  Only the name of the program must not look like the flag. -/
theorem glanceLanguage_read (words : List RawText) (i : Invocation) (lang : Option String)
    (hname : ∀ first ∈ words.head?, first ≠ RawText.ofString "--lang" ∧
      ¬(RawText.ofString "--lang=").bytes <+: first.bytes)
    (h : read words = .run i lang) :
    glanceLanguage (words.map RawText.lossy) = lang := by
  cases words with
  | nil => simp [read,readFrom,finish,settle] at h
  | cons first words =>
    obtain ⟨is,last,hl,ht,-,rfl⟩ := read_run h
    obtain ⟨hn,hp⟩ := hname first rfl
    exact glanceLanguage_line (silent_of_bytes hn hp) hl ht

theorem glanceLanguage_read_joined :
    let words := ["memcached-test","--memcached","-","--lang=zh-CN","--"].map RawText.ofString
    (∀ first ∈ words.head?, first ≠ RawText.ofString "--lang" ∧
      ¬(RawText.ofString "--lang=").bytes <+: first.bytes) ∧
    (∃ i, read words = .run i (some "zh-CN")) ∧
    glanceLanguage (words.map RawText.lossy) = some "zh-CN" := by
  intro words
  have hname : ∀ first ∈ words.head?, first ≠ RawText.ofString "--lang" ∧
      ¬(RawText.ofString "--lang=").bytes <+: first.bytes := by
    rintro _ ⟨⟩
    decide
  have hmemcached : Shape.of (RawText.ofString "--memcached") =
      .long (RawText.ofString Flag.memcached.name).bytes none := rfl
  have hdash : Shape.of (RawText.ofString "-") = .plain := rfl
  have hlang : Shape.of (RawText.ofString "--lang=zh-CN") =
      .long (RawText.ofString Flag.lang.name).bytes (some (RawText.ofString "zh-CN")) := rfl
  have hstop : Shape.of (RawText.ofString "--") = .stop := rfl
  have hdashKept (st : State) : keep .memcached (RawText.ofString "-") st =
      .ok { st with memcached := some (RawText.ofString "-") } := rfl
  have hlangKept (st : State) : keep .lang (RawText.ofString "zh-CN") st =
      .ok { st with lang := some "zh-CN" } := by
    rw [keep,text,RawText.text?_ofString]
    rfl
  have h : read words = .run ⟨RawText.ofString "-",false,none,none,none⟩ (some "zh-CN") := by
    simp only [words,read,List.map_cons,List.map_nil,List.tail_cons,readFrom,readWord,hmemcached,
      hdash,hlang,hstop,readLong_name (f := .memcached) rfl,readLong_name (f := .lang) rfl]
    simp [await,settled,settle,readPlain,giveNow,give,hdashKept,hlangKept,finish,State.invocation?]
  exact ⟨hname,⟨_,h⟩,glanceLanguage_read words _ _ hname h⟩

end MatrixHarness.Arguments
