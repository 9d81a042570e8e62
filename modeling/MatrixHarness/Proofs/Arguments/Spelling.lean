import MatrixHarness.Arguments.Reader
import MatrixHarness.Proofs.Text.Raw

/-! # Spelling

The grammar of command lines.  A command line spells a list of flags with their values, each of them
in one word or in two, and may end with two dashes.  Whatever command line is accepted is of this
form, and its flags took effect in the order in which they stand. -/
namespace MatrixHarness.Arguments

inductive Item where
  | valued (f : Flag) (v : RawText)
  | fast

def Item.flag : Item → Flag
  | valued f _ => f
  | fast => .fast

/-- The ways to write a flag and its value.  A value in a word of its own does not look like a
flag. -/
inductive Spelled : Item → List RawText → Prop
  | joined {f : Flag} (v : RawText) : f.takesValue = true →
    Spelled (.valued f v) [RawText.ofString ("--" ++ f.name ++ "=") ++ v]
  | apart {f : Flag} {v : RawText} : f.takesValue = true → Shape.of v = .plain →
    Spelled (.valued f v) [RawText.ofString ("--" ++ f.name),v]
  | lettered {b : UInt8} {bs : List UInt8} : b ≠ equals →
    Spelled (.valued .config ⟨b :: bs⟩) [RawText.ofString "-c" ++ ⟨b :: bs⟩]
  | letteredEquals (v : RawText) : Spelled (.valued .config v) [RawText.ofString "-c=" ++ v]
  | letteredApart {v : RawText} : Shape.of v = .plain →
    Spelled (.valued .config v) [RawText.ofString "-c",v]
  | fast : Spelled .fast [RawText.ofString "--fast"]

inductive Line : List Item → List RawText → Prop
  | done : Line [] []
  | stop : Line [] [RawText.ofString "--"]
  | item {i : Item} {is : List Item} {words rest : List RawText} : Spelled i words → Line is rest →
    Line (i :: is) (words ++ rest)

theorem Line.split {before after : List Item} {i : Item} {words : List RawText}
    (h : Line (before ++ i :: after) words) :
    ∃ xs ys zs, words = xs ++ (ys ++ zs) ∧ Line before xs ∧ Spelled i ys ∧ Line after zs := by
  induction before generalizing words with
  | nil =>
    cases h with
    | item hs hl => exact ⟨[],_,_,rfl,.done,hs,hl⟩
  | cons j before ih =>
    cases h with
    | item hs hl =>
      obtain ⟨xs,ys,zs,rfl,hx,hy,hz⟩ := ih hl
      exact ⟨_,ys,zs,(List.append_assoc ..).symm,.item hs hx,hy,hz⟩

/-! ## Shapes -/

theorem splitEquals_eq (bs : List UInt8) :
    bs = match splitEquals bs with
      | (name,none) => name
      | (name,some v) => name ++ equals :: v.bytes := by
  induction bs with
  | nil => rfl
  | cons b bs ih =>
    by_cases hb : b = equals
    · simp [splitEquals,hb]
    · rcases hs : splitEquals bs with ⟨name,_ | v⟩ <;> rw [hs] at ih <;>
        simpa [splitEquals,hb,hs] using ih

theorem Shape.bytes_of (word : RawText) :
    match Shape.of word with
    | .stop => word.bytes = [dash,dash]
    | .long name none => word.bytes = dash :: dash :: name
    | .long name (some v) => word.bytes = dash :: dash :: (name ++ equals :: v.bytes)
    | .short letters => word.bytes = dash :: letters
    | .plain => True := by
  rw [Shape.of]
  rcases hw : word.bytes with _ | ⟨b,_ | ⟨c,bs⟩⟩
  · trivial
  · trivial
  · by_cases hb : b = dash
    · by_cases hc : c = dash
      · rcases bs with _ | ⟨d,bs⟩
        · simp [hb,hc]
        · have hsplit := splitEquals_eq (d :: bs)
          rcases hs : splitEquals (d :: bs) with ⟨name,_ | v⟩ <;> rw [hs] at hsplit <;>
            simpa [hb,hc,hs] using hsplit
      · simp [hb,hc]
    · simp [hb]

theorem Shape.eq_stop {word : RawText} (h : Shape.of word = .stop) :
    word = RawText.ofString "--" := by
  have hb := Shape.bytes_of word
  rw [h] at hb
  exact RawText.eq_of_bytes hb

/-! ## Flags that take effect -/

/-- The state in which a flag has taken effect, unless it is refused. -/
def Item.take? (st : State) : Item → Option State
  | valued f v =>
    match give f (some v) st with
    | (st,none) => some st
    | (_,some _) => none
  | fast =>
    if .fast ∈ st.used then none else some { st with used := st.used ++ [.fast], fast := true }

/-- The state in which flags have taken effect one after another. -/
def takeAll? (st : State) (is : List Item) : Option State := is.foldlM Item.take? st

/-- The flags and values of what is left of a line, with the flag that waits. -/
inductive Expects : Option (Flag × Option RawText) → List Item → List RawText → Prop
  | settled {is : List Item} {words : List RawText} : Line is words → Expects none is words
  | valued {f : Flag} {v : RawText} {is : List Item} {words : List RawText} : Line is words →
    Expects (some (f,some v)) (.valued f v :: is) words
  | awaited {f : Flag} {v : RawText} {is : List Item} {words : List RawText} :
    Shape.of v = .plain → Line is words → Expects (some (f,none)) (.valued f v :: is) (v :: words)

def State.idle (st : State) : State := { st with pending := none }

theorem ok_of_map {ε α β : Type} {e : Except ε α} {g : α → β} {b : β} (h : e.map g = .ok b) :
    ∃ a, e = .ok a ∧ g a = b := by
  rcases e with e | a
  · simp [Except.map] at h
  · exact ⟨a,rfl,Except.ok.inj h⟩

theorem keep_effect {f : Flag} {v : RawText} {st next : State} (h : keep f v st = .ok next) :
    next.pending = st.pending ∧ next.used = st.used ∧ (f ≠ .lang → next.lang = st.lang) := by
  cases f with
  | lang =>
    obtain ⟨s,-,rfl⟩ := ok_of_map h
    exact ⟨rfl,rfl,fun hl => absurd rfl hl⟩
  | memcached | testRunner | config =>
    obtain ⟨p,-,rfl⟩ := ok_of_map h
    exact ⟨rfl,rfl,fun _ => rfl⟩
  | smp =>
    obtain ⟨n,-,rfl⟩ := ok_of_map h
    exact ⟨rfl,rfl,fun _ => rfl⟩
  | fast | help | version =>
    obtain rfl : st = next := Except.ok.inj h
    exact ⟨rfl,rfl,fun _ => rfl⟩

theorem keep_lang {v : RawText} {st next : State} (h : keep .lang v st = .ok next) :
    ∃ s, v.text? = some s ∧ next.lang = some s := by
  obtain ⟨s,hs,rfl⟩ := ok_of_map h
  refine ⟨s,?_,rfl⟩
  rw [text] at hs
  rcases hv : v.text? with _ | t <;> rw [hv] at hs
  · simp at hs
  · rw [Except.ok.inj hs]

theorem give_eq_none {f : Flag} {v : Option RawText} {st next : State}
    (h : give f v st = (next,none)) :
    f ∉ st.used ∧ ∃ w, v = some w ∧ keep f w { st with used := st.used ++ [f] } = .ok next := by
  rcases v with _ | w
  · simp [give] at h
  · by_cases hf : f ∈ st.used
    · simp [give,hf] at h
    · refine ⟨hf,w,rfl,?_⟩
      rcases hk : keep f w { st with used := st.used ++ [f] } with e | s
      · simp [give,hf,hk] at h
      · simpa [give,hf,hk] using h

structure Taken (i : Item) (st next : State) : Prop where
  fresh : i.flag ∉ st.used
  used : next.used = st.used ++ [i.flag]
  pending : next.pending = st.pending
  lang : i.flag ≠ .lang → next.lang = st.lang

theorem Item.take?_valued {f : Flag} {v : RawText} {st next : State} :
    (Item.valued f v).take? st = some next ↔ give f (some v) st = (next,none) := by
  rcases hg : give f (some v) st with ⟨s,_ | e⟩ <;> simp [Item.take?,hg]

theorem taken_of_take? {i : Item} {st next : State} (h : i.take? st = some next) :
    Taken i st next := by
  cases i with
  | valued f v =>
    obtain ⟨hf,w,-,hk⟩ := give_eq_none (Item.take?_valued.mp h)
    obtain ⟨hp,hu,hl⟩ := keep_effect hk
    exact ⟨hf,hu,hp,hl⟩
  | fast =>
    by_cases hf : Flag.fast ∈ st.used
    · simp [Item.take?,hf] at h
    · obtain rfl := by simpa [Item.take?,hf] using h
      exact ⟨hf,rfl,rfl,fun _ => rfl⟩

@[simp] theorem takeAll?_nil (st : State) : takeAll? st [] = some st := rfl

@[simp] theorem takeAll?_cons (st : State) (i : Item) (is : List Item) :
    takeAll? st (i :: is) = (i.take? st).bind (takeAll? · is) := rfl

@[simp] theorem takeAll?_append (st : State) (is js : List Item) :
    takeAll? st (is ++ js) = (takeAll? st is).bind (takeAll? · js) := List.foldlM_append

theorem takeAll?_used {st last : State} {is : List Item} (h : takeAll? st is = some last) :
    last.used = st.used ++ is.map Item.flag ∧ (st.used.Nodup → last.used.Nodup) := by
  induction is generalizing st with
  | nil =>
    obtain rfl := Option.some.inj h
    simp
  | cons i is ih =>
    rw [takeAll?_cons] at h
    obtain ⟨next,hi,his⟩ := Option.bind_eq_some_iff.mp h
    have ht := taken_of_take? hi
    obtain ⟨hu,hn⟩ := ih his
    rw [ht.used] at hu hn
    refine ⟨by rw [hu,List.map_cons,List.append_assoc,List.singleton_append],?_⟩
    intro hst
    refine hn (List.nodup_append.mpr ⟨hst,by simp,?_⟩)
    intro a ha b hb
    rw [List.mem_singleton.mp hb]
    rintro rfl
    exact ht.fresh ha

theorem takeAll?_lang {st last : State} {is : List Item} (h : takeAll? st is = some last)
    (hi : ∀ i ∈ is, i.flag ≠ .lang) : last.lang = st.lang := by
  induction is generalizing st with
  | nil => rw [← Option.some.inj h]
  | cons i is ih =>
    rw [takeAll?_cons] at h
    obtain ⟨next,htake,his⟩ := Option.bind_eq_some_iff.mp h
    rw [ih his fun j hj => hi j (by simp [hj])]
    exact (taken_of_take? htake).lang (hi i (by simp))

theorem settle_course {st next : State} (h : settle st = (next,none)) :
    next.pending = none ∧ ∃ waiting, takeAll? st.idle waiting = some next ∧
      ∀ is words, Line is words → Expects st.pending (waiting ++ is) words := by
  rw [settle] at h
  rcases hp : st.pending with _ | ⟨f,v⟩
  · obtain rfl : st = next := by simpa [hp] using h
    refine ⟨hp,[],?_,fun is words hl => .settled hl⟩
    simp [State.idle,← hp]
  · have hg : give f v st.idle = (next,none) := by
      rw [hp] at h
      exact h
    obtain ⟨-,w,rfl,-⟩ := give_eq_none hg
    have htake := Item.take?_valued.mpr hg
    exact ⟨(taken_of_take? htake).pending,[.valued f w],by simp [htake],
      fun is words hl => .valued hl⟩

theorem settled_next {st next : State} {go : State → Step} (h : settled st go = .next next) :
    ∃ s, settle st = (s,none) ∧ go s = .next next := by
  rw [settled] at h
  rcases hs : settle st with ⟨s,_ | r⟩
  · exact ⟨s,rfl,by simpa [hs] using h⟩
  · simp [hs] at h

/-! ## Reading -/

/-- A word that leads from one state to the next: whatever the rest of the line spells behind it,
the line with this word spells too. -/
def Leads (st : State) (word : RawText) (next : State) : Prop :=
  ∀ is words last, Expects next.pending is words → takeAll? next.idle is = some last →
    ∃ is', Expects st.pending is' (word :: words) ∧ takeAll? st.idle is' = some last

theorem State.idle_eq {st : State} (h : st.pending = none) : st.idle = st := by
  rw [State.idle,← h]

theorem leads_of_take? {st s next : State} {i : Item} {word : RawText} (hs : settle st = (s,none))
    (hw : Spelled i [word]) (hi : i.take? s = some next) : Leads st word next := by
  intro is words last he ht
  obtain ⟨hp,waiting,htake,hexpects⟩ := settle_course hs
  have hn : next.pending = none := (taken_of_take? hi).pending.trans hp
  rw [hn] at he
  rw [State.idle_eq hn] at ht
  cases he with
  | settled hl => exact ⟨waiting ++ i :: is,hexpects _ _ (.item hw hl),by simp [htake,hi,ht]⟩

theorem giveNow_leads {st next : State} {f : Flag} {v word : RawText}
    (hw : Spelled (.valued f v) [word]) (h : giveNow f v st = .next next) : Leads st word next := by
  obtain ⟨s,hs,hgo⟩ := settled_next h
  rcases hg : give f (some v) s with ⟨t,_ | r⟩
  · obtain rfl : t = next := by simpa [hg] using hgo
    exact leads_of_take? hs hw (Item.take?_valued.mpr hg)
  · simp [hg] at hgo

theorem await_leads {st next : State} {f : Flag} {word : RawText}
    (hw : ∀ v, Shape.of v = .plain → Spelled (.valued f v) [word,v])
    (h : await f st = .next next) : Leads st word next := by
  obtain ⟨s,hs,hgo⟩ := settled_next h
  obtain rfl := Step.next.inj hgo
  intro is words last he ht
  obtain ⟨hp,waiting,htake,hexpects⟩ := settle_course hs
  have hidle : State.idle { s with pending := some (f,none) } = s := State.idle_eq hp
  rw [hidle] at ht
  cases he with
  | awaited hv hl =>
    exact ⟨waiting ++ _,hexpects _ _ (.item (hw _ hv) hl),by simpa [htake] using ht⟩

theorem raise_leads {st next : State} {word : RawText} (hw : Spelled .fast [word])
    (h : raise .fast st = .next next) : Leads st word next := by
  obtain ⟨s,hs,hgo⟩ := settled_next h
  by_cases hf : Flag.fast ∈ s.used
  · simp [hf] at hgo
  · simp only [hf,if_false] at hgo
    exact leads_of_take? hs hw (by simpa [Item.take?,hf] using hgo)

theorem raise_next {st next : State} {f : Flag} (hf : f.takesValue = false)
    (h : raise f st = .next next) : f = .fast := by
  obtain ⟨s,-,hgo⟩ := settled_next h
  cases f <;> simp_all [Flag.takesValue,Flag.valueName?]

theorem bytes_of_flagName {name : List UInt8} {f : Flag}
    (h : (RawText.text? ⟨name⟩).bind Flag.ofName? = some f) :
    name = (RawText.ofString f.name).bytes := by
  obtain ⟨s,hs,hf⟩ := Option.bind_eq_some_iff.mp h
  have hname : f.name = s := by simpa using List.find?_some hf
  rw [hname,RawText.ofString_of_text? hs]

theorem bytes_dashes : (RawText.ofString "--").bytes = [dash,dash] := rfl

theorem readLong_leads {st next : State} {word : RawText} {name : List UInt8}
    {value : Option RawText} (hw : Shape.of word = .long name value)
    (h : readLong name value st = .next next) : Leads st word next := by
  have hbytes := Shape.bytes_of word
  rw [hw] at hbytes
  rw [readLong] at h
  split at h
  · simp [unknownName] at h
  · rename_i f hf
    have hname := bytes_of_flagName hf
    rcases hv : f.takesValue <;> rcases value with _ | v <;> simp only [hv] at h
    · obtain rfl := raise_next hv h
      obtain rfl : word = RawText.ofString "--fast" := by
        refine RawText.eq_of_bytes (hbytes.trans ?_)
        rw [hname]
        rfl
      exact raise_leads .fast h
    · simp at h
    · obtain rfl : word = RawText.ofString ("--" ++ f.name) := by
        refine RawText.eq_of_bytes (hbytes.trans ?_)
        simp only [hname,RawText.ofString_append,RawText.bytes_append,bytes_dashes]
        rfl
      exact await_leads (fun v hp => .apart hv hp) h
    · obtain rfl : word = RawText.ofString ("--" ++ f.name ++ "=") ++ v := by
        refine RawText.eq_of_bytes (hbytes.trans ?_)
        simp only [hname,RawText.ofString_append,RawText.bytes_append,bytes_dashes,
          List.append_assoc]
        rfl
      exact giveNow_leads (.joined v hv) h

theorem letter_of_takesValue {f : Flag} {c : Char} (hc : Flag.ofLetter? c = some f)
    (hf : f.takesValue = true) : f = .config ∧ 'c' = c := by
  have hletter : f.letter? = some c := by simpa using List.find?_some hc
  cases f with
  | config => exact ⟨rfl,Option.some.inj hletter⟩
  | lang | memcached | fast | testRunner | smp => simp [Flag.letter?] at hletter
  | help | version => simp [Flag.takesValue,Flag.valueName?] at hf

theorem letter_ne_fast {f : Flag} {c : Char} (hc : Flag.ofLetter? c = some f) : f ≠ .fast := by
  have hletter : f.letter? = some c := by simpa using List.find?_some hc
  rintro rfl
  simp [Flag.letter?] at hletter

theorem readShort_leads {st next : State} {word : RawText} {letters : List UInt8}
    (hw : Shape.of word = .short letters) (h : readShort letters st = .next next) :
    Leads st word next := by
  have hbytes : word.bytes = dash :: letters := by
    have hbytes := Shape.bytes_of word
    rwa [hw] at hbytes
  rw [readShort] at h
  split at h
  · rename_i c more hpieces
    split at h
    · simp at h
    · rename_i f hc
      split at h
      · rename_i hf
        obtain ⟨rfl,rfl⟩ := letter_of_takesValue hc hf
        have hshown : (RawText.pieces letters).map RawText.Piece.shown =
            'c' :: more.map RawText.Piece.shown := by
          rw [hpieces]
          rfl
        obtain ⟨rest,rfl,-⟩ := RawText.pieces_start (by simp [RawText.IsAscii]) hshown
        have hdrop : (UInt8.ofNat 'c'.toNat :: rest).drop 'c'.utf8Size = rest := rfl
        rw [hdrop] at h
        rcases rest with _ | ⟨b,bs⟩
        · obtain rfl : word = RawText.ofString "-c" := RawText.eq_of_bytes hbytes
          exact await_leads (fun v hp => .letteredApart hp) h
        · by_cases hb : b = equals
          · obtain rfl : word = RawText.ofString "-c=" ++ ⟨bs⟩ := by
              refine RawText.eq_of_bytes (hbytes.trans ?_)
              rw [hb]
              rfl
            simp only [attached?,hb,if_true] at h
            exact giveNow_leads (.letteredEquals ⟨bs⟩) h
          · obtain rfl : word = RawText.ofString "-c" ++ ⟨b :: bs⟩ :=
              RawText.eq_of_bytes hbytes
            simp only [attached?,hb,if_false] at h
            exact giveNow_leads (.lettered hb) h
      · rename_i hf
        have hfast := raise_next (by simpa using hf) h
        exact absurd hfast (letter_ne_fast hc)
  · simp at h

theorem readWord_leads {st next : State} {word : RawText} (hw : Shape.of word ≠ .stop)
    (h : readWord word st = .next next) : Leads st word next := by
  rw [readWord] at h
  split at h
  · exact absurd ‹_› hw
  · exact readLong_leads ‹_› h
  · exact readShort_leads ‹_› h
  · rename_i hplain
    rw [readPlain] at h
    split at h
    · rename_i f hp
      obtain rfl := Step.next.inj h
      intro is words last he ht
      rw [hp]
      cases he with
      | valued hl => exact ⟨_,.awaited hplain hl,ht⟩
    · simp at h

theorem finish_accepted {st last : State} (h : finish st = .accepted last) :
    settle st = (last,none) ∧ last.memcached.isSome = true := by
  rw [finish] at h
  split at h
  · simp at h
  · rename_i s hs
    split at h
    · rename_i hm
      obtain rfl := Outcome.accepted.inj h
      exact ⟨hs,hm⟩
    · simp at h

theorem readWord_ne_accepted {st last : State} {word : RawText} :
    readWord word st ≠ .done (.accepted last) := by
  -- settling comes first, and refuses if it does not go on
  have hsettled {go : State → Step} (hgo : ∀ s, go s ≠ .done (.accepted last)) :
      settled st go ≠ .done (.accepted last) := by
    rw [settled]
    split
    · exact hgo _
    · simp
  have hgive (f : Flag) (v : RawText) : giveNow f v st ≠ .done (.accepted last) := by
    refine hsettled fun s => ?_
    split <;> simp
  have hawait (f : Flag) : await f st ≠ .done (.accepted last) := hsettled fun s => by simp
  have hraise (f : Flag) : raise f st ≠ .done (.accepted last) := by
    refine hsettled fun s => ?_
    split
    · simp
    · simp
    · split <;> simp
  rw [readWord]
  split
  · simp
  · rw [readLong]
    split
    · simp [unknownName]
    · split
      · exact hgive _ _
      · exact hawait _
      · simp
      · exact hraise _
  · rw [readShort]
    split
    · split
      · simp
      · split
        · split
          · exact hgive _ _
          · exact hawait _
        · exact hraise _
    · simp
  · rw [readPlain]
    split <;> simp

theorem finish_course {st last : State} {words : List RawText} (h : finish st = .accepted last)
    (hw : Line [] words) :
    ∃ is, Expects st.pending is words ∧ takeAll? st.idle is = some last := by
  obtain ⟨hs,-⟩ := finish_accepted h
  obtain ⟨-,waiting,htake,hexpects⟩ := settle_course hs
  have he := hexpects [] words hw
  rw [List.append_nil] at he
  exact ⟨waiting,he,htake⟩

/-- Whatever is accepted is spelled, and its flags took effect in their order. -/
theorem readFrom_course {st last : State} {words : List RawText}
    (h : readFrom st words = .accepted last) :
    (∃ is, Expects st.pending is words ∧ takeAll? st.idle is = some last) ∧
      last.memcached.isSome = true := by
  induction words generalizing st with
  | nil => exact ⟨finish_course h .done,(finish_accepted h).2⟩
  | cons word words ih =>
    unfold readFrom at h
    split at h
    · rename_i hstop
      obtain rfl := Shape.eq_stop hstop
      rcases words with _ | ⟨extra,words⟩
      · exact ⟨finish_course h .stop,(finish_accepted h).2⟩
      · simp at h
    · rename_i hstop
      split at h
      · rename_i next hnext
        obtain ⟨⟨is,he,ht⟩,hm⟩ := ih h
        exact ⟨readWord_leads hstop hnext is words last he ht,hm⟩
      · rename_i o ho
        rw [h] at ho
        exact absurd ho readWord_ne_accepted

end MatrixHarness.Arguments
