import MatrixHarness.Proofs.Matrix.Passes
import MatrixHarness.Proofs.Mirror
import MatrixHarness.Proofs.Pass.Transitions

/-! # Interrupts

A matrix in a run that is cancelled, at whatever moment.  A run that is cancelled behind a pass is
cancelled where the next pass looks first, and that pass starts nothing.  To be asked to stop once
more makes no difference: a host that insists mirrors one that asks only once. -/
namespace MatrixHarness

open Acts

namespace PassRun

variable {σ : Type} {H : Harness σ} {r next : Run σ} {p : PassRun}

def StartedNothing (p : PassRun) : Prop :=
  transitions p.acts = [(p.config,.notStarted)] ∧
    ∀ role cl answer, .spawned role cl answer ∉ p.acts

/-- The pass found the run cancelled when it looked first. -/
structure Interrupted (p : PassRun) : Prop where
  startedNothing : p.StartedNothing
  result : p.result = some (.error (Pass.failed p.config .interrupted none))

theorem Interrupted.not_succeeded (h : p.Interrupted) : ¬p.Succeeded := by
  rintro ⟨result,hr⟩
  rw [h.result] at hr
  simp at hr

theorem Runs.interrupted (h : p.Runs H r next) (hc : r.cancelled = true) : p.Interrupted := by
  obtain ⟨finish,duration,hresult,hcourse,hfinish⟩ := h.course
  rw [hfinish hc] at hresult hcourse
  have ht : transitions p.acts = [(p.config,.notStarted)] := hcourse.transitions
  have hm : milestones p.acts = [] := hcourse.answered.2
  exact ⟨⟨ht,spawned_notMem hm⟩,hresult⟩

/-- A pass succeeds only if its test-runner was found to have ended, with success, before the run
was seen to be cancelled. -/
theorem Runs.exited (h : p.Runs H r next) (hp : p.Succeeded) :
    ∃ status, RunnerExited p.acts status ∧ status.success = true := by
  obtain ⟨result,hr⟩ := hp
  obtain ⟨finish,duration,he,hcourse⟩ := h.finished hr
  obtain ⟨status,stopped,rfl,hsuccess⟩ := PassEnd.result_ok.mp ⟨result,he⟩
  have htest := hcourse.answered.2.2.1
  exact ⟨status,testEnd_eq_exited.mp htest,hsuccess⟩

end PassRun

/-- What becomes of a matrix if the run is cancelled behind one of its passes. -/
structure StoppedBehind (configs : List PassConfig)
    (answer : Option (Except Trail (List PassResult))) (before : List PassRun) (p : PassRun)
    (after : List PassRun) : Prop where
  /-- At most one more pass is begun, and it starts nothing. -/
  atMostOne : after.length ≤ 1
  startedNothing : ∀ q ∈ after, q.StartedNothing
  /-- The matrix succeeds only if there is no pass left, and only by an exit that was seen before
  the run was seen to be cancelled. -/
  ok : ∀ results, answer = some (.ok results) →
    after = [] ∧ configs = before.map PassRun.config ++ [p.config] ∧
    ∃ status, RunnerExited p.acts status ∧ status.success = true
  /-- If there is one left although this pass succeeded, the matrix is interrupted in it. -/
  interrupted : ∀ next rest, p.Succeeded →
    configs = before.map PassRun.config ++ p.config :: next :: rest →
    answer = some (.error (Pass.failed next .interrupted none)) ∧
    ∃ q, after = [q] ∧ q.config = next

namespace Harness

variable {σ : Type} {H : Harness σ} {configs : List PassConfig} {r last : Run σ} {ps : List PassRun}

/-- In a cancelled run only one more pass is begun, if there is any left. -/
theorem MatrixCourse.of_cancelled (h : H.MatrixCourse configs r ps last)
    (hc : r.cancelled = true) :
    configs = [] ∧ ps = [] ∨
      ∃ p rest, configs = p.config :: rest ∧ ps = [p] ∧ p.Interrupted := by
  cases h with
  | done r => exact .inl ⟨rfl,rfl⟩
  | @halted p _ _ rest hp hr => exact .inr ⟨p,rest,rfl,rfl,hp.interrupted hc⟩
  | further hp hr hps => exact absurd hr (hp.interrupted hc).not_succeeded

theorem MatrixCourse.stoppedBehind {before after : List PassRun} {p : PassRun}
    (h : H.MatrixCourse configs r (before ++ p :: after) last) (hc : p.cancelled = true) :
    StoppedBehind configs (conclusion (before ++ p :: after)) before p after := by
  obtain ⟨hbefore,s,next,rest,hconfigs,hruns,hafter⟩ := h.split
  have hall {results : List PassResult} {q : PassRun}
      (ho : conclusion (before ++ p :: after) = some (.ok results))
      (hq : q ∈ before ++ p :: after) : q.Succeeded := succeeded_of_conclusion ho q hq
  rcases hafter with ⟨hp,hlater⟩ | ⟨hp,rfl⟩
  · rw [hruns.cancelled] at hc
    rcases hlater.of_cancelled hc with ⟨rfl,rfl⟩ | ⟨q,more,rfl,rfl,hq⟩
    · constructor
      case atMostOne => simp
      case startedNothing => simp
      case ok => exact fun _ _ => ⟨rfl,hconfigs,hruns.exited hp⟩
      case interrupted =>
        intro next rest _ hmore
        simp [hconfigs] at hmore
    · constructor
      case atMostOne => simp
      case startedNothing => simpa using hq.startedNothing
      case ok => exact fun _ ho => absurd (hall ho (by simp)) hq.not_succeeded
      case interrupted =>
        intro next rest _ hmore
        have hnext : q.config = next := by
          rw [hconfigs] at hmore
          have htail := List.append_cancel_left hmore
          exact (List.cons.inj (List.cons.inj htail).2).1
        have hearlier : ∀ b ∈ before ++ [p], b.Succeeded := by
          intro b hb
          rcases List.mem_append.mp hb with hb | hb
          · exact hbefore b hb
          · rw [List.mem_singleton.mp hb]
            exact hp
        have herror : conclusion (before ++ [p] ++ q :: []) =
            some (.error (Pass.failed q.config .interrupted none)) :=
          conclusion_error hearlier hq.result
        rw [hnext,List.append_assoc] at herror
        exact ⟨herror,q,rfl,hnext⟩
  · constructor
    case atMostOne => simp
    case startedNothing => simp
    case ok => exact fun _ ho => absurd (hall ho (by simp)) hp
    case interrupted => exact fun _ _ hsucceeded _ => absurd hsucceeded hp

theorem MatrixCourse.cancelled (h : H.MatrixCourse configs r ps last) :
    ∀ p ∈ ps, r.cancelled = true ∨ .looked true ∈ p.acts → p.cancelled = true := by
  have hpass {r next : Run σ} {p : PassRun} (hp : p.Runs H r next)
      (hc : r.cancelled = true ∨ .looked true ∈ p.acts) : p.cancelled = true := by
    rw [hp.cancelled]
    exact hc.elim hp.continues.stays hp.continues.seen
  induction h with
  | done r => simp
  | halted rest hp hr => simpa using hpass hp
  | further hp hr hps ih =>
    intro p hmem hc
    rcases List.mem_cons.mp hmem with rfl | hmem
    · exact hpass hp hc
    · exact ih p hmem (hc.imp_left hp.continues.stays)

end Harness

/-! ## Asking again -/

namespace Host

variable {σ : Type}

/-- The state of the host, with the mark whether the run was ever asked to stop. -/
def marked (h : Host σ) (asked : Bool) (world : σ) : σ × Bool :=
  (world,asked || h.interrupted world)

/-- A host that asks to stop the run once more at any later moment. -/
def insisting (h : Host σ) (again : σ → Bool) : Host (σ × Bool) where
  spawn role cl w := (h.spawn role cl w.1).map id (h.marked w.2)
  poll pid w := (h.poll pid w.1).map id (h.marked w.2)
  signal pid s w := (h.signal pid s w.1).map id (h.marked w.2)
  pause w := h.marked w.2 (h.pause w.1)
  hear n w := h.marked w.2 (h.hear n w.1)
  print stream text w := h.marked w.2 (h.print stream text w.1)
  listen text w := h.marked w.2 (h.listen text w.1)
  interrupted w := h.interrupted w.1 || w.2 && again w.1
  now w := h.now w.1

end Host

namespace Run

variable {σ : Type}

def insisted (r : Run σ) : Run (σ × Bool) := ⟨(r.world,r.cancelled),r.cancelled,r.acts⟩

@[simp] theorem history_insisted (r : Run σ) : r.insisted.history = r.history := rfl

/-- A run that is asked again behind an act was cancelled before, or is by that act. -/
theorem after_insisted (h : Host σ) (again : σ → Bool) (a : Act) (world : σ) (r : Run σ) :
    r.insisted.after (h.insisting again) a (h.marked r.cancelled world) =
      (r.after h a world).insisted := by
  have hc : (r.cancelled || (h.interrupted world ||
      (r.cancelled || h.interrupted world) && again world)) =
      (r.cancelled || h.interrupted world) := by
    cases r.cancelled <;> cases h.interrupted world <;> rfl
  simp [after,insisted,Host.insisting,Host.marked,hc]

end Run

theorem Host.mirrors_insisting {σ : Type} (h : Host σ) (again : σ → Bool) :
    Mirrors h (h.insisting again) Run.insisted where
  spawn _ _ r := Prod.ext rfl (r.after_insisted h again _ _)
  poll _ r := Prod.ext rfl (r.after_insisted h again _ _)
  signal _ _ r := Prod.ext rfl (r.after_insisted h again _ _)
  pause r := r.after_insisted h again _ _
  hear _ r := r.after_insisted h again _ _
  print _ r := r.after_insisted h again _ _
  note _ _ := rfl
  cancelled _ := rfl
  now _ := rfl

namespace Harness

variable {σ : Type}

def insisting (H : Harness σ) (again : σ → Bool) : Harness (σ × Bool) where
  host := H.host.insisting again
  locale := H.locale
  listener := H.listener
  patience := H.patience

theorem mirrors_insisting (H : Harness σ) (again : σ → Bool) :
    H.Mirrors (H.insisting again) Run.insisted where
  host := H.host.mirrors_insisting again
  locale := rfl
  listener := rfl
  patience := rfl

end Harness
end MatrixHarness
