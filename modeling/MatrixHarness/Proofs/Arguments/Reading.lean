import MatrixHarness.Proofs.Arguments.Spelling

/-! # Reading a line

A line that spells flags is read as these flags taking effect one after another, whatever the
spelling of each of them.  So what is accepted depends on the flags and their values alone. -/
namespace MatrixHarness.Arguments

/-! ## Words that begin with a flag -/

def opening? (word : RawText) : Option (Flag × Option RawText) :=
  match Shape.of word with
  | .long name value => ((RawText.text? ⟨name⟩).bind Flag.ofName?).map (·,value)
  | .short letters =>
    match RawText.pieces letters with
    | .char c :: _ => (Flag.ofLetter? c).map (·,attached? (letters.drop c.utf8Size))
    | _ => none
  | _ => none

section opening

variable {w : RawText} {f : Flag} {v : Option RawText}

theorem shape_of_opening? (h : opening? w = some (f,v)) :
    Shape.of w ≠ .stop ∧ Shape.of w ≠ .plain := by
  constructor <;> intro hw <;> simp [opening?,hw] at h

theorem readWord_opening (h : opening? w = some (f,v)) (hv : f.takesValue = false → v = none)
    (st : State) :
    readWord w st = if f.takesValue then v.elim (await f st) (giveNow f · st) else raise f st := by
  rw [opening?] at h
  rw [readWord]
  split at h
  · rename_i value hshape
    obtain ⟨g,hg,hfv⟩ := Option.map_eq_some_iff.mp h
    obtain ⟨rfl,rfl⟩ := Prod.mk.inj hfv
    simp only [hshape,readLong,hg]
    rcases hf : g.takesValue
    · rw [hv hf]
      rfl
    · cases value <;> rfl
  · rename_i letters hshape
    split at h
    · rename_i c more hpieces
      obtain ⟨g,hg,hfv⟩ := Option.map_eq_some_iff.mp h
      obtain ⟨rfl,rfl⟩ := Prod.mk.inj hfv
      simp only [hshape,readShort,hpieces,hg]
      cases attached? (letters.drop c.utf8Size) <;> rfl
    · simp at h
  · simp at h

theorem text?_flagName (f : Flag) : RawText.text? ⟨(RawText.ofString f.name).bytes⟩ = some f.name :=
  RawText.text?_ofString f.name

theorem opening?_name (f : Flag) :
    opening? (RawText.ofString ("--" ++ f.name)) = some (f,none) := by
  have hshape : Shape.of (RawText.ofString ("--" ++ f.name)) =
      .long (RawText.ofString f.name).bytes none := by cases f <;> rfl
  simp [opening?,hshape,text?_flagName]

theorem opening?_joined (f : Flag) (v : RawText) :
    opening? (RawText.ofString ("--" ++ f.name ++ "=") ++ v) = some (f,some v) := by
  have hshape : Shape.of (RawText.ofString ("--" ++ f.name ++ "=") ++ v) =
      .long (RawText.ofString f.name).bytes (some v) := by cases f <;> rfl
  simp [opening?,hshape,text?_flagName]

theorem opening?_letter (v : RawText) :
    opening? (RawText.ofString "-c" ++ v) = some (.config,attached? v.bytes) := by
  have hshape : Shape.of (RawText.ofString "-c" ++ v) = .short (0x63 :: v.bytes) := rfl
  have hpieces : RawText.pieces (0x63 :: v.bytes) = .char 'c' :: RawText.pieces v.bytes := by
    rw [RawText.pieces]
    cases v.bytes <;> rfl
  have hletter : Flag.ofLetter? 'c' = some .config := by decide
  have hdrop : (0x63 :: v.bytes).drop 'c'.utf8Size = v.bytes := rfl
  simp [opening?,hshape,hpieces,hletter,hdrop]

end opening

def Item.value? : Item → Option RawText
  | valued _ v => some v
  | fast => none

theorem Spelled.takesValue {f : Flag} {v : RawText} {words : List RawText}
    (h : Spelled (.valued f v) words) : f.takesValue = true := by
  cases h <;> first | assumption | rfl

theorem Spelled.opening {i : Item} {words : List RawText} (h : Spelled i words) :
    (∃ w, words = [w] ∧ opening? w = some (i.flag,i.value?)) ∨
      ∃ w v, words = [w,v] ∧ opening? w = some (i.flag,none) ∧ i.value? = some v ∧
        Shape.of v = .plain := by
  cases h with
  | joined v => exact .inl ⟨_,rfl,opening?_joined _ v⟩
  | apart _ hv => exact .inr ⟨_,_,rfl,opening?_name _,rfl,hv⟩
  | @lettered b bs hb =>
    refine .inl ⟨_,rfl,?_⟩
    rw [opening?_letter,attached?,if_neg hb]
    rfl
  | letteredEquals v => exact .inl ⟨_,rfl,opening?_letter ⟨equals :: v.bytes⟩⟩
  | letteredApart hv => exact .inr ⟨_,_,rfl,opening?_letter ⟨[]⟩,rfl,hv⟩
  | fast => exact .inl ⟨_,rfl,opening?_name .fast⟩

/-! ## From state to state -/

def Outcome.accepted? : Outcome → Option State
  | accepted st => some st
  | _ => none

/-- What is accepted in the end if these words follow. -/
def Step.accepted? (words : List RawText) : Step → Option State
  | next st => (readFrom st words).accepted?
  | done o => o.accepted?

theorem readFrom_cons {w : RawText} (hw : Shape.of w ≠ .stop) (words : List RawText) (st : State) :
    (readFrom st (w :: words)).accepted? = (readWord w st).accepted? words := by
  rw [readFrom.eq_def]
  dsimp only
  split
  · contradiction
  · cases readWord w st <;> rfl

def State.waiting (st : State) : List Item :=
  match st.pending with
  | some (f,some v) => [.valued f v]
  | _ => []

theorem State.waiting_eq {st : State} (h : st.pending = none) : st.waiting = [] := by
  rw [State.waiting,h]

theorem takeAll?_pending {st last : State} {is : List Item} (h : takeAll? st is = some last) :
    last.pending = st.pending := by
  induction is generalizing st with
  | nil => rw [← Option.some.inj h]
  | cons i is ih =>
    rw [takeAll?_cons] at h
    obtain ⟨next,htake,his⟩ := Option.bind_eq_some_iff.mp h
    rw [ih his,(taken_of_take? htake).pending]

section line

variable {st : State} (hp : ∀ f, st.pending ≠ some (f,none))
include hp

theorem settle_eq : takeAll? st.idle st.waiting =
    match settle st with
    | (s,none) => some s
    | (_,some _) => none := by
  rcases hst : st.pending with _ | ⟨f,_ | v⟩
  · simp [State.waiting_eq hst,State.idle_eq hst,settle,hst]
  · exact absurd hst (hp f)
  · have hsettle : settle st = give f (some v) st.idle := by
      rw [settle,hst]
      rfl
    rcases hg : give f (some v) st.idle with ⟨s,_ | r⟩ <;>
      simp [State.waiting,hst,hsettle,Item.take?,hg]

theorem settled_accepted? (go : State → Step) (words : List RawText) :
    (settled st go).accepted? words =
      (takeAll? st.idle st.waiting).bind fun s => (go s).accepted? words := by
  rw [settle_eq hp,settled]
  rcases settle st with ⟨s,_ | r⟩ <;> rfl

theorem finish_accepted? :
    (finish st).accepted? = (takeAll? st.idle st.waiting).filter (·.memcached.isSome) := by
  rw [settle_eq hp,finish]
  rcases settle st with ⟨s,_ | r⟩
  · by_cases hm : s.memcached.isSome = true <;> simp [hm,Outcome.accepted?,Option.filter]
  · rfl

theorem readWord_accepted? {w : RawText} {i : Item} (hw : opening? w = some (i.flag,i.value?))
    (hi : Spelled i [w]) (words : List RawText) :
    (readWord w st).accepted? words =
      (takeAll? st.idle (st.waiting ++ [i])).bind fun s => (readFrom s words).accepted? := by
  cases i with
  | valued f v =>
    have hf : f.takesValue = true := hi.takesValue
    have hread : readWord w st = giveNow f v st := by
      rw [readWord_opening hw (by simp [Item.flag,hf]),Item.flag,if_pos hf]
      rfl
    rw [hread,takeAll?_append,giveNow,settled_accepted? hp,Option.bind_assoc]
    congr 1
    funext s
    rcases hg : give f (some v) s with ⟨t,_ | r⟩ <;>
      simp [Item.take?,hg,Step.accepted?,Outcome.accepted?]
  | fast =>
    have hread : readWord w st = raise .fast st := readWord_opening hw (fun _ => rfl) st
    rw [hread,takeAll?_append,raise,settled_accepted? hp,Option.bind_assoc]
    congr 1
    funext s
    by_cases hs : Flag.fast ∈ s.used <;> simp [Item.take?,hs,Step.accepted?,Outcome.accepted?]

end line

/-- The flags of a line take effect one after another, behind the one that waits. -/
theorem readFrom_line {is : List Item} {words : List RawText} (hl : Line is words) (st : State)
    (hp : ∀ f, st.pending ≠ some (f,none)) :
    (readFrom st words).accepted? =
      (takeAll? st.idle (st.waiting ++ is)).filter (·.memcached.isSome) := by
  induction hl generalizing st with
  | done =>
    rw [List.append_nil]
    exact finish_accepted? hp
  | stop =>
    rw [List.append_nil]
    exact finish_accepted? hp
  | @item i is words rest hs hl ih =>
    -- no flag waits behind those that have taken effect
    have hnone {is : List Item} {s : State} (h : takeAll? st.idle is = some s) :
        s.pending = none := takeAll?_pending h
    rcases hs.opening with ⟨w,rfl,hw⟩ | ⟨w,v,rfl,hw,hv,hplain⟩
    · rw [List.singleton_append,readFrom_cons (shape_of_opening? hw).1,
        readWord_accepted? hp hw hs,List.append_cons _ i is,takeAll?_append _ _ is]
      rcases hall : takeAll? st.idle (st.waiting ++ [i]) with _ | s
      · rfl
      · have hs := hnone hall
        have hrest := ih s (by simp [hs])
        rwa [State.idle_eq hs,State.waiting_eq hs] at hrest
    · cases i with
      | fast => cases hv
      | valued f v' =>
        obtain rfl := Option.some.inj hv
        have hf : f.takesValue = true := hs.takesValue
        have hread : readWord w st = await f st := by
          rw [readWord_opening hw fun _ => rfl,Item.flag,if_pos hf]
          rfl
        rw [List.cons_append,readFrom_cons (shape_of_opening? hw).1,hread,await,
          settled_accepted? hp,takeAll?_append]
        rcases hall : takeAll? st.idle st.waiting with _ | s
        · rfl
        · have hs := hnone hall
          have hwait : readWord v' { s with pending := some (f,none) } =
              .next { s with pending := some (f,some v') } := by
            rw [readWord,hplain]
            rfl
          have hrest := ih { s with pending := some (f,some v') } (by simp)
          have hidle : State.idle { s with pending := some (f,some v') } = s := State.idle_eq hs
          rw [hidle] at hrest
          show (readFrom _ (v' :: rest)).accepted? = _
          rw [readFrom_cons (by simp [hplain]),hwait]
          exact hrest

end MatrixHarness.Arguments
