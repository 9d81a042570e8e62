import MatrixHarness.Proofs.Arguments.Kept

/-! # Exactness

Whatever the order of the flags and the spelling of each, a command line is read as what it says;
and nothing else is read.  A command line that lacks the required flag or repeats one, that holds a
word which belongs to no flag, or gives a path or a hint that is none, is refused. -/
namespace MatrixHarness.Arguments

/-! ## Every order and spelling -/

/-- What can be told by a command line: no path is empty, and a hint is at least 1. -/
structure Tellable (i : Invocation) : Prop where
  memcached : i.memcached.bytes ≠ []
  testRunner : ∀ p ∈ i.testRunner, p.bytes ≠ []
  smp : ∀ n ∈ i.smp, 1 ≤ n.toNat
  config : ∀ p ∈ i.config, p.bytes ≠ []

def itemFor (i : Invocation) (lang : Option String) : Flag → Option Item
  | .lang => lang.map fun s => .valued .lang (RawText.ofString s)
  | .memcached => some (.valued .memcached i.memcached)
  | .fast => if i.fast then some .fast else none
  | .testRunner => i.testRunner.map (.valued .testRunner)
  | .smp => i.smp.map fun n => .valued .smp (RawText.ofString (toString n.toNat))
  | .config => i.config.map (.valued .config)
  | .help => none
  | .version => none

def items (i : Invocation) (lang : Option String) : List Item := Flag.all.filterMap (itemFor i lang)

theorem hint_toString {n : UInt32} (h : 1 ≤ n.toNat) :
    Hint (RawText.ofString (toString n.toNat)) n := by
  refine ⟨h,toString n.toNat,RawText.text?_ofString _,?_⟩
  rw [Nat.toString_eq_repr,Nat.toList_repr]
  exact Number.numeral_toDigits n.toNat

theorem smp_kept? {n : UInt32} {v : RawText} (h : Hint v n) :
    (Item.valued .smp v).kept? = some (.hint n) := by
  simp [Item.kept?,smpValue_ok_iff.mpr h,Except.toOption]

theorem path?_of_ne {v : RawText} (h : v.bytes ≠ []) : path? v = some (.path v) := by
  rw [path?,if_neg (by simpa using h)]

theorem itemFor_kept {i : Invocation} (h : Tellable i) (lang : Option String) (f : Flag) :
    (itemFor i lang f).map (fun j => (j.flag,j.kept?)) =
      (keptOf i lang f).map fun k => (f,some k) := by
  cases f with
  | lang => rcases lang with _ | s <;> simp [itemFor,keptOf,State.kept,Item.flag,Item.kept?]
  | memcached =>
    simp [itemFor,keptOf,State.kept,Item.flag,Item.kept?,path?_of_ne h.memcached]
  | fast => rcases hf : i.fast <;> simp [itemFor,keptOf,State.kept,hf,Item.flag,Item.kept?]
  | testRunner =>
    rcases hr : i.testRunner with _ | r
    · simp [itemFor,keptOf,State.kept,hr]
    · simp [itemFor,keptOf,State.kept,hr,Item.flag,Item.kept?,path?_of_ne (h.testRunner r hr)]
  | smp =>
    rcases hn : i.smp with _ | n
    · simp [itemFor,keptOf,State.kept,hn]
    · have hkept := smp_kept? (hint_toString (h.smp n hn))
      simpa [itemFor,keptOf,State.kept,hn,Item.flag] using hkept
  | config =>
    rcases hc : i.config with _ | c
    · simp [itemFor,keptOf,State.kept,hc]
    · simp [itemFor,keptOf,State.kept,hc,Item.flag,Item.kept?,path?_of_ne (h.config c hc)]
  | help => rfl
  | version => rfl

theorem spells_items {i : Invocation} (h : Tellable i) (lang : Option String) :
    Spells i lang (items i lang) := by
  have hgiven {f : Flag} {j : Item} (hj : itemFor i lang f = some j) :
      ∃ k, keptOf i lang f = some k ∧ j.flag = f ∧ j.kept? = some k := by
    have hkept := itemFor_kept h lang f
    rw [hj,Option.map_some] at hkept
    obtain ⟨k,hk,hfk⟩ := Option.map_eq_some_iff.mp hkept.symm
    obtain ⟨hf,hjk⟩ := Prod.mk.inj hfk
    exact ⟨k,hk,hf.symm,hjk.symm⟩
  refine ⟨?_,?_,?_⟩
  · rw [items,List.map_filterMap]
    refine List.Nodup.filterMap ?_ (by decide)
    intro f g m hf hg
    obtain ⟨j,hj,rfl⟩ := Option.map_eq_some_iff.mp hf
    obtain ⟨l,hl,hlm⟩ := Option.map_eq_some_iff.mp hg
    obtain ⟨-,-,hjf,-⟩ := hgiven hj
    obtain ⟨-,-,hlg,-⟩ := hgiven hl
    rw [← hjf,← hlg,hlm]
  · intro j hj
    obtain ⟨f,-,hf⟩ := List.mem_filterMap.mp hj
    obtain ⟨k,hk,rfl,hjk⟩ := hgiven hf
    exact ⟨k,hjk,hk⟩
  · intro f hf
    have hnone : itemFor i lang f = none := by
      refine Option.eq_none_iff_forall_ne_some.mpr fun j hj => hf ?_
      obtain ⟨-,-,hjf,-⟩ := hgiven hj
      exact List.mem_map.mpr ⟨j,List.mem_filterMap.mpr ⟨f,f.mem_all,hj⟩,hjf⟩
    have hkept := itemFor_kept h lang f
    rw [hnone] at hkept
    simpa using hkept.symm

theorem Spells.perm {i : Invocation} {lang : Option String} {is js : List Item}
    (h : Spells i lang is) (hp : js.Perm is) : Spells i lang js where
  once := (hp.map _).nodup_iff.mpr h.once
  told j hj := h.told j (hp.mem_iff.mp hj)
  complete f hf := h.complete f fun hmem => hf ((hp.map _).mem_iff.mpr hmem)

/-- Whatever the order of the flags and the spelling of each, what they say is read. -/
theorem read_items {words : List RawText} {i : Invocation} {lang : Option String}
    {is : List Item} (hi : Tellable i) (hp : is.Perm (items i lang)) (hl : Line is words.tail) :
    read words = .run i lang :=
  (read_line_iff hl).mpr ((spells_items hi lang).perm hp)

theorem ne_of_path? {v p : RawText} (h : path? v = some (.path p)) : p.bytes ≠ [] := by
  rw [path?] at h
  split_ifs at h with hv
  obtain rfl := Kept.path.inj (Option.some.inj h)
  simpa using hv

theorem Item.kept?_sound (j : Item) :
    (∀ p, j.kept? = some (.path p) → p.bytes ≠ []) ∧
      ∀ n, j.kept? = some (.hint n) → 1 ≤ n.toNat := by
  cases j with
  | fast => simp [kept?]
  | valued f v =>
    cases f with
    | lang => simp [kept?]
    | memcached | testRunner | config =>
      refine ⟨fun p hp => ne_of_path? hp,fun n hn => ?_⟩
      simp [kept?,path?] at hn
    | smp =>
      refine ⟨by simp [kept?],fun n hn => ?_⟩
      obtain ⟨m,hm,hmn⟩ := Option.map_eq_some_iff.mp hn
      obtain rfl := Kept.hint.inj hmn
      rcases hv : smpValue v with e | k
      · simp [hv,Except.toOption] at hm
      · obtain rfl : k = m := by simpa [hv,Except.toOption] using hm
        exact (smpValue_ok_iff.mp hv).1
    | fast | help | version => simp [kept?]

theorem Spells.tellable {i : Invocation} {lang : Option String} {is : List Item}
    (h : Spells i lang is) : Tellable i := by
  have hkept {f : Flag} {k : Kept} (hk : keptOf i lang f = some k) :
      ∃ j : Item, j.kept? = some k := by
    have hf : f ∈ is.map Item.flag := by
      by_contra hnot
      rw [h.complete f hnot] at hk
      cases hk
    obtain ⟨j,hj,rfl⟩ := List.mem_map.mp hf
    obtain ⟨k',hk',hik⟩ := h.told j hj
    exact ⟨j,by rw [hk',← hik,hk]⟩
  have hpath {f : Flag} {p : RawText} (hp : keptOf i lang f = some (.path p)) : p.bytes ≠ [] := by
    obtain ⟨j,hj⟩ := hkept hp
    exact j.kept?_sound.1 p hj
  refine ⟨hpath (f := .memcached) rfl,fun p hp => ?_,fun n hn => ?_,fun p hp => ?_⟩
  · exact hpath (f := .testRunner) (by simp [keptOf,State.kept,Option.mem_def.mp hp])
  · obtain ⟨j,hj⟩ := hkept (f := .smp) (k := .hint n)
      (by simp [keptOf,State.kept,Option.mem_def.mp hn])
    exact j.kept?_sound.2 n hj
  · exact hpath (f := .config) (by simp [keptOf,State.kept,Option.mem_def.mp hp])

theorem tellable_of_read {words : List RawText} {i : Invocation} {lang : Option String}
    (h : read words = .run i lang) : Tellable i := by
  obtain ⟨is,-,hspells⟩ := read_iff.mp h
  exact hspells.tellable

/-! ## What is refused -/

/-- Where a word of a line stands: at its end, before the value of its flag, or behind a flag that
awaits it. -/
inductive Place (is : List Item) (before : List RawText) (w : RawText) (after : List RawText) : Prop
  | stop : Shape.of w = .stop → after = [] → Place is before w after
  | whole {i : Item} : i ∈ is → opening? w = some (i.flag,i.value?) → Place is before w after
  | front {i : Item} {v : RawText} {rest : List RawText} : i ∈ is →
    opening? w = some (i.flag,none) →
    i.value? = some v → after = v :: rest → Place is before w after
  | value {i : Item} {u : RawText} : Shape.of w = .plain → i ∈ is → i.value? = some w →
    u ∈ before.getLast? → opening? u = some (i.flag,none) → Place is before w after

theorem Place.later {is : List Item} {before after : List RawText} {w : RawText}
    (h : Place is before w after) (i : Item) (front : List RawText) :
    Place (i :: is) (front ++ before) w after := by
  cases h with
  | stop hw ha => exact .stop hw ha
  | whole hj hw => exact .whole (List.mem_cons_of_mem i hj) hw
  | front hj hw hv ha => exact .front (List.mem_cons_of_mem i hj) hw hv ha
  | value hw hj hv hu ho =>
    refine .value hw (List.mem_cons_of_mem i hj) hv ?_ ho
    rw [List.getLast?_append,Option.mem_def.mp hu]
    rfl

theorem Line.place {is : List Item} {words before after : List RawText} {w : RawText}
    (hl : Line is words) (hw : words = before ++ w :: after) : Place is before w after := by
  induction hl generalizing before with
  | done => simp at hw
  | stop =>
    obtain ⟨rfl,rfl,rfl⟩ : before = [] ∧ w = RawText.ofString "--" ∧ after = [] := by
      rcases before with _ | ⟨b,before⟩ <;>
        simp only [List.nil_append,List.cons_append,List.cons.injEq,List.nil_eq_append_iff,
          reduceCtorEq,and_false] at hw
      exact ⟨rfl,hw.1.symm,hw.2.symm⟩
    exact .stop rfl rfl
  | @item i is ys rest hs hl ih =>
    rcases hs.opening with ⟨u,rfl,hu⟩ | ⟨u,v,rfl,hu,hv,hplain⟩
    · rcases before with _ | ⟨b,before⟩
      · obtain ⟨rfl,-⟩ := List.cons.inj hw
        exact .whole List.mem_cons_self hu
      · obtain ⟨rfl,hrest⟩ := List.cons.inj hw
        exact (ih hrest).later i [u]
    · rcases before with _ | ⟨b,_ | ⟨c,before⟩⟩
      · obtain ⟨rfl,hrest⟩ := List.cons.inj hw
        exact .front List.mem_cons_self hu hv hrest.symm
      · obtain ⟨rfl,hrest⟩ := List.cons.inj hw
        obtain ⟨rfl,-⟩ := List.cons.inj hrest
        exact .value hplain List.mem_cons_self hv rfl hu
      · obtain ⟨rfl,hmore⟩ := List.cons.inj hw
        obtain ⟨rfl,hrest⟩ := List.cons.inj hmore
        exact (ih hrest).later i [u,v]

/-- The flags of a line are those that its words begin with. -/
theorem Line.openings {is : List Item} {words : List RawText} (hl : Line is words) :
    (words.filterMap opening?).map Prod.fst = is.map Item.flag := by
  have hvalue {v : RawText} (hv : Shape.of v = .plain) : opening? v = none := by
    rw [opening?,hv]
  induction hl with
  | done => rfl
  | stop => rfl
  | item hs hl ih =>
    rcases hs.opening with ⟨u,rfl,hu⟩ | ⟨u,v,rfl,hu,-,hplain⟩
    · simp [hu,ih]
    · simp [hu,hvalue hplain,ih]

theorem Place.opened {is : List Item} {before after : List RawText} {w : RawText} {f : Flag}
    {o : Option RawText} (h : Place is before w after) (ho : opening? w = some (f,o)) :
    ∃ i ∈ is, i.flag = f ∧
      (i.value? = o ∨ o = none ∧ ∃ v rest, i.value? = some v ∧ after = v :: rest) := by
  cases h with
  | stop hw _ => exact absurd hw (shape_of_opening? ho).1
  | value hw _ _ _ _ => exact absurd hw (shape_of_opening? ho).2
  | whole hi hio =>
    obtain ⟨hif,hiv⟩ := Prod.mk.inj (Option.some.inj (hio.symm.trans ho))
    exact ⟨_,hi,hif,.inl hiv⟩
  | front hi hio hv hrest =>
    obtain ⟨hif,hnone⟩ := Prod.mk.inj (Option.some.inj (hio.symm.trans ho))
    exact ⟨_,hi,hif,.inr ⟨hnone.symm,_,_,hv,hrest⟩⟩

inductive Gives (words : List RawText) (f : Flag) (v : RawText) : Prop
  | joined {w : RawText} : w ∈ words → opening? w = some (f,some v) → Gives words f v
  | apart {u : RawText} {before after : List RawText} : words = before ++ u :: v :: after →
    opening? u = some (f,none) → Gives words f v

theorem Line.gives {is : List Item} {words : List RawText} (hl : Line is words) {f : Flag}
    {v : RawText} (hf : f.takesValue = true) (h : Gives words f v) : .valued f v ∈ is := by
  have hitem {i : Item} (hi : i ∈ is) (hif : i.flag = f) (hiv : i.value? = some v) :
      .valued f v ∈ is := by
    cases i with
    | valued g u =>
      obtain rfl : g = f := hif
      obtain rfl := Option.some.inj hiv
      exact hi
    | fast => cases hiv
  cases h with
  | joined hw ho =>
    obtain ⟨before,after,hwords⟩ := List.append_of_mem hw
    obtain ⟨i,hi,hif,hiv | ⟨hnone,-⟩⟩ := (hl.place hwords).opened ho
    · exact hitem hi hif hiv
    · cases hnone
  | apart hwords ho =>
    obtain ⟨i,hi,hif,hiv | ⟨-,v',rest,hiv,hrest⟩⟩ := (hl.place hwords).opened ho
    · -- a flag without a value is none that takes one
      have hproper := hl.proper i hi
      rw [Item.Proper,hif,hf,hiv] at hproper
      cases hproper
    · obtain ⟨rfl,-⟩ := List.cons.inj hrest
      exact hitem hi hif hiv

/-- What can stand for a value in a word of its own: it begins with no dash, or is a dash alone. -/
def IsValue (w : RawText) : Prop := w.bytes = [dash] ∨ ∀ bs, w.bytes ≠ dash :: bs

theorem shape_plain_iff {w : RawText} : Shape.of w = .plain ↔ IsValue w := by
  rw [Shape.of,IsValue]
  rcases w.bytes with _ | ⟨b,_ | ⟨c,bs⟩⟩
  · simp
  · simp only [List.cons.injEq,and_true,true_iff]
    by_cases hb : b = dash
    · exact .inl hb
    · exact .inr fun _ h => hb (List.cons.inj h).1
  · by_cases hb : b = dash
    · by_cases hc : c = dash <;> by_cases hbs : bs.isEmpty = true <;> simp [hb,hc,hbs]
    · simp [hb]

def Flag.IsPath (f : Flag) : Prop := f = .memcached ∨ f = .testRunner ∨ f = .config

inductive Faulty (words : List RawText) : Prop
  /-- No word gives the server. -/
  | missing : (∀ w ∈ words, ∀ v, opening? w ≠ some (.memcached,v)) → Faulty words
  /-- Two words begin with the same flag. -/
  | repeated {u w : RawText} {f : Flag} {v v' : Option RawText} : [u,w].Sublist words →
    opening? u = some (f,v) → opening? w = some (f,v') → Faulty words
  /-- A word begins with a dash, but with no flag. -/
  | unknown {w : RawText} : w ∈ words → ¬IsValue w → w ≠ RawText.ofString "--" →
    opening? w = none → Faulty words
  /-- A word that could be a value stands behind no flag that takes it for one. -/
  | positional {before after : List RawText} {w : RawText} : words = before ++ w :: after →
    IsValue w → (∀ u ∈ before.getLast?, ∀ f : Flag, f.takesValue = true →
      opening? u ≠ some (f,none)) → Faulty words
  /-- A word stands behind two dashes. -/
  | behind {before after : List RawText} {w : RawText} :
    words = before ++ RawText.ofString "--" :: w :: after → Faulty words
  | emptyPath {f : Flag} {v : RawText} : f.IsPath → Gives words f v → v.bytes = [] → Faulty words
  | badHint {v : RawText} : Gives words .smp v → (∀ n, ¬Hint v n) → Faulty words

theorem not_faulty {words : List RawText} {is : List Item} {i : Invocation} {lang : Option String}
    (hl : Line is words) (h : Spells i lang is) : ¬Faulty words := by
  intro hfaulty
  cases hfaulty with
  | missing hno =>
    have hmem : Flag.memcached ∈ is.map Item.flag := by
      by_contra hnot
      simpa [keptOf,State.kept] using h.complete .memcached hnot
    rw [← hl.openings] at hmem
    obtain ⟨⟨f,v⟩,hfv,rfl⟩ := List.mem_map.mp hmem
    obtain ⟨w,hw,ho⟩ := List.mem_filterMap.mp hfv
    exact hno w hw v ho
  | repeated hsub hu hw =>
    have htwice := (hsub.filterMap opening?).map Prod.fst
    rw [hl.openings] at htwice
    simpa [hu,hw] using h.once.sublist htwice
  | unknown hw hp hs ho =>
    obtain ⟨before,after,hwords⟩ := List.append_of_mem hw
    cases hl.place hwords with
    | stop hstop _ => exact hs (Shape.eq_stop hstop)
    | whole _ hio => simp [ho] at hio
    | front _ hio _ _ => simp [ho] at hio
    | value hplain _ _ _ _ => exact hp (shape_plain_iff.mp hplain)
  | positional hwords hvalue hno =>
    have hp := shape_plain_iff.mpr hvalue
    cases hl.place hwords with
    | stop hstop _ => simp [hp] at hstop
    | whole _ hio => exact (shape_of_opening? hio).2 hp
    | front _ hio _ _ => exact (shape_of_opening? hio).2 hp
    | @value i u _ hi hv hu ho =>
      have htakes : i.flag.takesValue = true := by rw [hl.proper i hi,hv]; rfl
      exact hno u hu _ htakes ho
  | behind hwords =>
    cases hl.place hwords with
    | stop _ hafter => simp at hafter
    | whole _ hio => exact (shape_of_opening? hio).1 rfl
    | front _ hio _ _ => exact (shape_of_opening? hio).1 rfl
    | value hplain _ _ _ _ => cases hplain
  | @emptyPath f v hf hgives hempty =>
    have htakes : f.takesValue = true := by rcases hf with rfl | rfl | rfl <;> rfl
    obtain ⟨k,hk,-⟩ := h.told _ (hl.gives htakes hgives)
    have hpath : path? v = none := by simp [path?,hempty]
    rcases hf with rfl | rfl | rfl <;> simp [Item.kept?,hpath] at hk
  | @badHint v hgives hno =>
    obtain ⟨k,hk,-⟩ := h.told _ (hl.gives rfl hgives)
    rw [Item.kept?] at hk
    rcases hv : smpValue v with e | n
    · simp [hv,Except.toOption] at hk
    · exact hno n (smpValue_ok_iff.mp hv)

/-- Every order of the flags and every spelling of each is read as what it says, and what is faulty
is not read. -/
theorem read_exact :
    (∀ (i : Invocation) (lang : Option String), Tellable i → ∀ is, is.Perm (items i lang) →
      ∀ program words, Line is words → read (program :: words) = .run i lang) ∧
    ∀ words, Faulty words.tail → ∀ i lang, read words ≠ .run i lang := by
  constructor
  · intro i lang hi is hp program words hl
    exact read_items hi hp hl
  · intro words hfaulty i lang hread
    obtain ⟨is,hl,h⟩ := read_iff.mp hread
    exact not_faulty hl h hfaulty

theorem read_exact_backwards :
    let i : Invocation :=
      { memcached := RawText.ofString "/opt/memcached", fast := true, smp := some 4,
        config := some (RawText.ofString "conf") }
    let words := ["-cconf","--smp=4","--fast","--memcached","/opt/memcached","--lang=zh"].map
      RawText.ofString
    (Tellable i ∧ (items i (some "zh")).reverse.Perm (items i (some "zh")) ∧
      Line (items i (some "zh")).reverse words ∧
      read (RawText.ofString "memcached-matrix" :: words) = .run i (some "zh")) ∧
    Faulty (words ++ [RawText.ofString "--smp=5"]) ∧
    ∀ j lang,
      read (RawText.ofString "memcached-matrix" :: (words ++ [RawText.ofString "--smp=5"])) ≠
      .run j lang := by
  intro i words
  have htellable : Tellable i :=
    ⟨by decide,by simp [i],by simp [i],by simp [i]; decide⟩
  have hconfig : Spelled (.valued .config (RawText.ofString "conf"))
      [RawText.ofString "-cconf"] := .lettered (b := 0x63) (by decide)
  have hsmp : Spelled (.valued .smp (RawText.ofString "4")) [RawText.ofString "--smp=4"] :=
    .joined (f := .smp) (RawText.ofString "4") rfl
  have hmemcached : Spelled (.valued .memcached i.memcached)
      [RawText.ofString "--memcached",RawText.ofString "/opt/memcached"] :=
    .apart (f := .memcached) rfl rfl
  have hlang : Spelled (.valued .lang (RawText.ofString "zh")) [RawText.ofString "--lang=zh"] :=
    .joined (f := .lang) (RawText.ofString "zh") rfl
  have hline : Line (items i (some "zh")).reverse words :=
    .item hconfig (.item hsmp (.item .fast (.item hmemcached (.item hlang .done))))
  have hperm := (items i (some "zh")).reverse_perm
  have hfaulty : Faulty (words ++ [RawText.ofString "--smp=5"]) := by
    have htwice : [RawText.ofString "--smp=4",RawText.ofString "--smp=5"].Sublist
        (words ++ [RawText.ofString "--smp=5"]) :=
      .append (.cons _ (.cons_cons _ (List.nil_sublist _))) (.refl _)
    exact .repeated htwice (opening?_joined .smp (RawText.ofString "4"))
      (opening?_joined .smp (RawText.ofString "5"))
  exact ⟨⟨htellable,hperm,hline,read_exact.1 i _ htellable _ hperm _ _ hline⟩,hfaulty,
    read_exact.2 (_ :: (words ++ [RawText.ofString "--smp=5"])) hfaulty⟩

end MatrixHarness.Arguments
