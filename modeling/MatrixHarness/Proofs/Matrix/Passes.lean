import MatrixHarness.Matrix
import MatrixHarness.Proofs.Pass.Notices

/-! # The passes of a matrix

A matrix, pass by pass.  The passes that are begun are listed with what was done in each; the
history of the matrix is theirs put together, and its result is made of theirs. -/
namespace MatrixHarness

structure PassRun where
  config : PassConfig
  acts : List Act
  result : Option (Except Trail PassResult)
  /-- The run is cancelled behind the pass. -/
  cancelled : Bool

namespace PassRun

def Succeeded (p : PassRun) : Prop := ∃ result, p.result = some (.ok result)

def report (p : PassRun) : Harness.PassReport := ⟨p.result,Acts.notices p.acts,p.cancelled⟩

structure Runs {σ : Type} (H : Harness σ) (r : Run σ) (p : PassRun) (next : Run σ) : Prop where
  continues : r.Continues p.acts next
  cancelled : p.cancelled = next.cancelled
  course : ∃ finish duration, p.result = finish.map (PassEnd.result H.locale p.config duration) ∧
    H.PassCourse p.config p.acts finish ∧ (r.cancelled = true → finish = some .interrupted)

theorem Runs.finished {σ : Type} {H : Harness σ} {r next : Run σ} {p : PassRun}
    {answer : Except Trail PassResult} (h : p.Runs H r next) (ha : p.result = some answer) :
    ∃ finish duration, PassEnd.result H.locale p.config duration finish = answer ∧
      H.PassCourse p.config p.acts (some finish) := by
  obtain ⟨finish,duration,hresult,hcourse,-⟩ := h.course
  obtain ⟨e,rfl,he⟩ := Option.map_eq_some_iff.mp (hresult.symm.trans ha)
  exact ⟨e,duration,he,hcourse⟩

end PassRun

namespace Harness

variable {σ : Type}

def passes (H : Harness σ) : List PassConfig → Run σ → List PassRun
  | [], _ => []
  | config :: configs, r =>
    let (result,next) := H.runPass config r
    ⟨config,next.history.drop r.history.length,result,next.cancelled⟩ ::
      match result with
      | some (.ok _) => H.passes configs next
      | _ => []

def conclusion : List PassRun → Option (Except Trail (List PassResult))
  | [] => some (.ok [])
  | p :: ps =>
    match p.result with
    | none => none
    | some (.error t) => some (.error t)
    | some (.ok result) => (conclusion ps).map (Except.map (result :: ·))

theorem conclusion_cons_ok {p : PassRun} {ps : List PassRun} {results : List PassResult} :
    conclusion (p :: ps) = some (.ok results) ↔ ∃ result more, p.result = some (.ok result) ∧
      conclusion ps = some (.ok more) ∧ results = result :: more := by
  rcases hr : p.result with _ | (t | result)
  · simp [conclusion,hr]
  · simp [conclusion,hr]
  · rcases hc : conclusion ps with _ | (t | more) <;>
      simp [conclusion,hr,hc,Except.map,eq_comm]

theorem succeeded_of_conclusion {ps : List PassRun} {results : List PassResult}
    (h : conclusion ps = some (.ok results)) : ∀ p ∈ ps, p.Succeeded := by
  induction ps generalizing results with
  | nil => simp
  | cons p ps ih =>
    obtain ⟨result,more,hr,hc,-⟩ := conclusion_cons_ok.mp h
    simpa using ⟨⟨result,hr⟩,ih hc⟩

/-- Behind passes that succeed, one that does not decides. -/
theorem conclusion_halted {before after : List PassRun} {p : PassRun}
    (hb : ∀ q ∈ before, q.Succeeded) (hp : ¬p.Succeeded) :
    conclusion (before ++ p :: after) = conclusion [p] := by
  have hcons (ps : List PassRun) : conclusion (p :: ps) = conclusion [p] := by
    rcases hr : p.result with _ | (t | result)
    · simp [conclusion,hr]
    · simp [conclusion,hr]
    · exact absurd ⟨result,hr⟩ hp
  induction before with
  | nil => exact hcons after
  | cons b before ih =>
    obtain ⟨result,hr⟩ := hb b (by simp)
    simp only [List.cons_append,conclusion,hr,ih fun q hq => hb q (by simp [hq])]
    rcases hr : p.result with _ | (t | result)
    · rfl
    · rfl
    · exact absurd ⟨result,hr⟩ hp

theorem conclusion_error {before after : List PassRun} {p : PassRun} {t : Trail}
    (hb : ∀ q ∈ before, q.Succeeded) (hp : p.result = some (.error t)) :
    conclusion (before ++ p :: after) = some (.error t) := by
  rw [conclusion_halted hb (by simp [PassRun.Succeeded,hp])]
  simp [conclusion,hp]

theorem halted_of_conclusion {ps : List PassRun}
    (h : ∀ results, conclusion ps ≠ some (.ok results)) :
    ∃ before p after, ps = before ++ p :: after ∧ (∀ q ∈ before, q.Succeeded) ∧ ¬p.Succeeded := by
  induction ps with
  | nil => exact absurd rfl (h [])
  | cons p ps ih =>
    by_cases hp : p.Succeeded
    · obtain ⟨result,hr⟩ := hp
      obtain ⟨before,q,after,rfl,hbefore,hq⟩ := ih fun results hc =>
        h (result :: results) (conclusion_cons_ok.mpr ⟨result,results,hr,hc,rfl⟩)
      exact ⟨p :: before,q,after,rfl,List.forall_mem_cons.mpr ⟨⟨result,hr⟩,hbefore⟩,hq⟩
    · exact ⟨[],p,ps,rfl,by simp,hp⟩

theorem error_of_conclusion {ps : List PassRun} {t : Trail}
    (h : conclusion ps = some (.error t)) :
    ∃ before p after, ps = before ++ p :: after ∧ p.result = some (.error t) ∧
      ∀ q ∈ before, q.Succeeded := by
  have hne (results : List PassResult) : conclusion ps ≠ some (.ok results) := by simp [h]
  obtain ⟨before,p,after,rfl,hb,hp⟩ := halted_of_conclusion hne
  refine ⟨before,p,after,rfl,?_,hb⟩
  rw [conclusion_halted hb hp] at h
  rcases hr : p.result with _ | (trail | result)
  · simp [conclusion,hr] at h
  · simpa [conclusion,hr] using h
  · simp [conclusion,hr,Except.map] at h

/-- What becomes of a matrix: passes that succeed, and behind them either no more configurations or
a pass that does not succeed. -/
inductive MatrixCourse (H : Harness σ) : List PassConfig → Run σ → List PassRun → Run σ → Prop
  | done (r : Run σ) : MatrixCourse H [] r [] r
  | halted {p : PassRun} {r next : Run σ} (configs : List PassConfig) : p.Runs H r next →
    ¬p.Succeeded → MatrixCourse H (p.config :: configs) r [p] next
  | further {p : PassRun} {r next last : Run σ} {configs : List PassConfig} {ps : List PassRun} :
    p.Runs H r next → p.Succeeded → MatrixCourse H configs next ps last →
    MatrixCourse H (p.config :: configs) r (p :: ps) last

theorem runAll_course (H : Harness σ) (configs : List PassConfig) (r : Run σ) :
    (H.runAll configs r).1 = conclusion (H.passes configs r) ∧
      H.MatrixCourse configs r (H.passes configs r) (H.runAll configs r).2 := by
  induction configs generalizing r with
  | nil => exact ⟨rfl,.done r⟩
  | cons config configs ih =>
    obtain ⟨acts,finish,duration,next,heq,hcourse,hn,hc⟩ := H.runPass_course config r
    have hacts := hn.acts_eq
    have hp : PassRun.Runs H r ⟨config,acts,finish.map (PassEnd.result H.locale config duration),
        next.cancelled⟩ next :=
      ⟨hn,rfl,finish,duration,rfl,hcourse,fun h => hc.mp ((H.continues_enter config _ r).stays h)⟩
    simp only [runAll,passes,heq,hacts]
    rcases hres : finish.map (PassEnd.result H.locale config duration) with _ | (t | result) <;>
      rw [hres] at hp
    · exact ⟨rfl,.halted configs hp (by simp [PassRun.Succeeded])⟩
    · exact ⟨rfl,.halted configs hp (by simp [PassRun.Succeeded])⟩
    · obtain ⟨hfst,hsnd⟩ := ih next
      rcases hall : H.runAll configs next with ⟨answer,last⟩
      simp only [hall] at hfst hsnd ⊢
      simp only [conclusion,← hfst]
      rcases answer with _ | (t | results) <;> exact ⟨rfl,.further hp ⟨result,rfl⟩ hsnd⟩

namespace MatrixCourse

variable {H : Harness σ} {configs : List PassConfig} {r last : Run σ} {ps : List PassRun}

theorem continues (h : H.MatrixCourse configs r ps last) :
    r.Continues (ps.flatMap PassRun.acts) last := by
  induction h with
  | done r => exact .refl r
  | halted configs hp hr => simpa using hp.continues
  | further hp hr hps ih => exact hp.continues.trans ih

theorem configs_prefix (h : H.MatrixCourse configs r ps last) :
    ps.map PassRun.config <+: configs := by
  induction h with
  | done r => exact List.prefix_rfl
  | halted configs hp hr => simp
  | further hp hr hps ih => simpa using ih

/-- A matrix split at one of its passes: all earlier ones succeeded, and either this one succeeded
too and the matrix went on, or it is the last. -/
theorem split {before after : List PassRun} {p : PassRun}
    (h : H.MatrixCourse configs r (before ++ p :: after) last) :
    (∀ q ∈ before, q.Succeeded) ∧
    ∃ s next rest, configs = before.map PassRun.config ++ p.config :: rest ∧ p.Runs H s next ∧
      (p.Succeeded ∧ H.MatrixCourse rest next after last ∨ ¬p.Succeeded ∧ after = []) := by
  induction before generalizing configs r with
  | nil =>
    refine ⟨by simp,?_⟩
    cases h with
    | halted rest hp hr => exact ⟨_,_,rest,rfl,hp,.inr ⟨hr,rfl⟩⟩
    | further hp hr hps => exact ⟨_,_,_,rfl,hp,.inl ⟨hr,hps⟩⟩
  | cons b before ih =>
    generalize hps : b :: before ++ p :: after = ps at h
    cases h with
    | done r => simp at hps
    | halted rest hp hr => simp at hps
    | further hp hr hrest =>
      simp only [List.cons_append,List.cons.injEq] at hps
      obtain ⟨rfl,rfl⟩ := hps
      obtain ⟨hbefore,s,next,rest,hconfigs,hruns,hafter⟩ := ih hrest
      refine ⟨?_,s,next,rest,by simp [hconfigs],hruns,hafter⟩
      intro q hq
      rcases List.mem_cons.mp hq with rfl | hq
      · exact hr
      · exact hbefore q hq

theorem course (h : H.MatrixCourse configs r ps last) : ∀ p ∈ ps, ∃ s next, p.Runs H s next := by
  induction h with
  | done r => simp
  | halted configs hp hr => simpa using ⟨_,_,hp⟩
  | further hp hr hps ih => simpa using ⟨⟨_,_,hp⟩,ih⟩

end MatrixCourse

/-- Where every pass is run, the first ones are those of the matrix; if they all succeed there are
no others. -/
theorem runEach_reports (H : Harness σ) (configs : List PassConfig) (r : Run σ) :
    (H.passes configs r).map PassRun.report <+: (H.runEach configs r).1 ∧
      ((∀ p ∈ H.passes configs r, p.Succeeded) →
        (H.runEach configs r).1 = (H.passes configs r).map PassRun.report ∧
          (H.runEach configs r).2 = (H.runAll configs r).2) := by
  induction configs generalizing r with
  | nil => simp [passes,runEach,runAll]
  | cons config configs ih =>
    obtain ⟨acts,finish,duration,next,heq,-,hn,-⟩ := H.runPass_course config r
    have hacts := hn.acts_eq
    have hnotices : next.notices.drop r.notices.length = Acts.notices acts := by
      simp [Run.notices,hn.history,Acts.notices]
    obtain ⟨hbegun,hall⟩ := ih next
    simp only [passes,runEach,runAll,heq,hacts,hnotices]
    rcases finish.map (PassEnd.result H.locale config duration) with _ | (t | result)
    · simp [PassRun.report,PassRun.Succeeded]
    · simp [PassRun.report,PassRun.Succeeded]
    · refine ⟨by simpa [PassRun.report] using hbegun,fun hs => ?_⟩
      obtain ⟨hreports,hlast⟩ := hall fun p hp => hs p (by simp [hp])
      refine ⟨by simp [PassRun.report,hreports],?_⟩
      rcases hall : H.runAll configs next with ⟨_ | (t | results),last⟩ <;> simp [hlast,hall]

end Harness
end MatrixHarness
