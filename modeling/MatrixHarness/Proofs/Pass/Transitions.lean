import MatrixHarness.Proofs.Pass.Notices

/-! # Transitions of a pass

The states that a listener is told of in a pass, against what the host answered and against the
result.  There are three forms, and which one it is depends on the answers alone. -/
namespace MatrixHarness

def Notice.transition : Notice → Option (PassConfig × PassState)
  | entered config state => some (config,state)
  | cleanupFailed _ _ => none

open Acts

def Acts.transitions (acts : List Act) : List (PassConfig × PassState) :=
  (notices acts).filterMap Notice.transition

theorem filterMap_transition_entered (config : PassConfig) (states : List PassState) :
    (states.map (.entered config)).filterMap Notice.transition = states.map (config,·) := by
  have hone : Notice.transition ∘ .entered config = some ∘ fun state => (config,state) := rfl
  rw [List.filterMap_map,hone,List.filterMap_eq_map]

def stoppedStates : Except IoError WaitStatus → List PassState
  | .ok _ => [.serverStopped]
  | .error _ => []

def PassEnd.states : PassEnd → List PassState
  | interrupted => [.notStarted]
  | serverNotStarted _ => [.notStarted,.serverStarting]
  | served test stopped => servedStates test.states (stoppedStates stopped)

theorem Child.Watched.kill_sent {pid : Pid} {n : Nat} {acts : List Act}
    {answer : Option (Except IoError Waited)} (h : Child.Watched pid n acts answer)
    (ha : answer = some (.ok .cancelled)) : .signaled pid .kill (.ok ()) ∈ acts := by
  induction h with
  | again h ih => simp [ih ha]
  | killed h =>
    cases h with
    | sent h => simp
  | _ => simp at ha

namespace Harness

variable {σ : Type} {H : Harness σ} {config : PassConfig} {acts : List Act}

theorem PassCourse.transitions {finish : PassEnd} (h : H.PassCourse config acts (some finish)) :
    Acts.transitions acts = finish.states.map (config,·) := by
  rw [Acts.transitions,h.notices]
  rcases finish with _ | e | ⟨t,stopped⟩
  · exact filterMap_transition_entered config [.notStarted]
  · exact filterMap_transition_entered config [.notStarted,.serverStarting]
  · rw [PassEnd.notices,List.filterMap_append,filterMap_transition_entered]
    rcases stopped with e | status
    · by_cases ht : t.passed = true <;>
        simp [TestEnd.closing,ht,Notice.transition,PassEnd.states,servedStates,stoppedStates]
    · simp [TestEnd.closing,Notice.transition,PassEnd.states,servedStates,stoppedStates]

/-- A test-runner that counts as cancelled was killed and reaped. -/
theorem PassCourse.runnerKilled_iff {t : TestEnd} {s : Except IoError WaitStatus}
    (h : H.PassCourse config acts (some (.served t s))) :
    RunnerKilled acts ↔ t = .ended .cancelled := by
  obtain ⟨-,-,htest,-⟩ := h.answered
  constructor
  · rintro ⟨pid,status,hs,he,hl,-⟩
    have hc := testEnd_eq_cancelled.mpr ⟨pid,status,hs,he,hl⟩
    exact Option.some.inj (htest.symm.trans hc)
  · rintro rfl
    obtain ⟨pid,status,hs,he,hl⟩ := testEnd_eq_cancelled.mp htest
    refine ⟨pid,status,hs,he,hl,?_⟩
    cases h with
    | served ht hd =>
      cases ht with
      | @ended pid' _ _ hw =>
        have hp : pid' = pid := by simpa [started_cons,Act.startIn] using hs
        simp [← hp,hw.kill_sent rfl]

end Harness

open Harness

def FailsAs (config : PassConfig) (reason : Reason) (status : Option WaitStatus)
    (result : Except Trail PassResult) : Prop :=
  ∃ t, result = .error t ∧ t.failure? = some ⟨config.variant.name,reason,status⟩

/-- What goes with the states of a pass whose server was started: those that tell of the test, and
those behind the end of the server. -/
structure ServedLaw (config : PassConfig) (acts : List Act) (result : Except Trail PassResult)
    (t s : List PassState) : Prop where
  passed : t = [.testPassed] ↔ ∃ status, RunnerExited acts status ∧ status.success = true
  failed : t = [.testFailed] ↔
    (∃ status, RunnerExited acts status ∧ status.success = false) ∨ RunnerKilled acts
  neither : t = [] ↔
    (∃ e, started .testRunner acts = some (.error e)) ∨ ∃ e, RunnerLost acts e
  stopped : s = [.serverStopped] ↔ ∃ status, stopAnswer acts = some (.ok status)
  notStopped : s = [] ↔ ∃ e, stopAnswer acts = some (.error e)
  /-- A test that passed is spoiled by a server that cannot be stopped. -/
  fault_of_stop : t = [.testPassed] → s = [] → FailsAs config .fault none result
  testFailed : ∀ status, RunnerExited acts status → status.success = false →
    FailsAs config .testFailed (some status) result
  interrupted : RunnerKilled acts → FailsAs config .interrupted none result
  spawn : ∀ e, started .testRunner acts = some (.error e) → FailsAs config .spawn none result
  fault_of_wait : ∀ e, RunnerLost acts e → FailsAs config .fault none result

/-- The states that a listener is told of in a pass that is over, against what was answered and
against the result.  The flag says that the pass found the run cancelled when it looked first. -/
structure TransitionLaw (config : PassConfig) (acts : List Act) (cancelled : Bool)
    (result : Except Trail PassResult) (states : List PassState) : Prop where
  forms : states = [.notStarted] ∨ states = [.notStarted,.serverStarting] ∨
    ∃ t s, states = servedStates t s ∧ t ∈ [[.testPassed],[.testFailed],[]] ∧
      s ∈ [[.serverStopped],[]]
  interrupted_iff : states = [.notStarted] ↔ cancelled = true
  interrupted : states = [.notStarted] → FailsAs config .interrupted none result ∧
    ∀ role cl answer, .spawned role cl answer ∉ acts
  serverNotStarted_iff : states = [.notStarted,.serverStarting] ↔
    ∃ e, started .server acts = some (.error e)
  serverNotStarted : states = [.notStarted,.serverStarting] → FailsAs config .spawn none result
  served_iff : (∃ t s, states = servedStates t s) ↔ ∃ pid, started .server acts = some (.ok pid)
  served : ∀ t s, states = servedStates t s → ServedLaw config acts result t s
  ok : (∃ p, result = .ok p) ↔ states = servedStates [.testPassed] [.serverStopped]

theorem servedStates_inj {t s t' s' : List PassState} (ht : .serverStopping ∉ t)
    (hs : .serverStopping ∉ s) (h : servedStates t s = servedStates t' s') : t = t' ∧ s = s' := by
  simp only [servedStates,List.append_assoc,List.singleton_append,List.append_cancel_left_eq] at h
  obtain ⟨ht,-,hs⟩ := (List.append_cons_inj_of_notMem ht hs).mp h
  exact ⟨ht,hs⟩

namespace TestEnd

variable {t : TestEnd}

theorem states_eq_testPassed :
    t.states = [.testPassed] ↔ ∃ status, t = .ended (.exited status) ∧ status.success = true := by
  rcases t with e | e | (status | _)
  · simp [states]
  · simp [states]
  · rcases hs : status.success <;> simp [states,Waited.state,Waited.passed,hs]
  · simp [states,Waited.state,Waited.passed]

theorem states_eq_testFailed :
    t.states = [.testFailed] ↔
      (∃ status, t = .ended (.exited status) ∧ status.success = false) ∨ t = .ended .cancelled := by
  rcases t with e | e | (status | _)
  · simp [states]
  · simp [states]
  · rcases hs : status.success <;> simp [states,Waited.state,Waited.passed,hs]
  · simp [states,Waited.state,Waited.passed]

theorem states_eq_nil : t.states = [] ↔ (∃ e, t = .notStarted e) ∨ ∃ e, t = .notAwaited e := by
  rcases t with e | e | w <;> simp [states]

theorem states_mem : t.states ∈ [[.testPassed],[.testFailed],[]] := by
  rcases t with e | e | w
  · simp [states]
  · simp [states]
  · rcases hw : w.passed <;> simp [states,Waited.state,hw]

theorem serverStopping_notMem (t : TestEnd) : .serverStopping ∉ t.states := by
  rcases t with e | e | w
  · simp [states]
  · simp [states]
  · rcases hw : w.passed <;> simp [states,Waited.state,hw]

end TestEnd

theorem stoppedStates_mem (s : Except IoError WaitStatus) :
    stoppedStates s ∈ [[.serverStopped],[]] := by
  rcases s with e | status <;> simp [stoppedStates]

/-- The states of a pass tell the end of its test and the end of its server apart. -/
theorem PassEnd.states_served {t : TestEnd} {stopped : Except IoError WaitStatus}
    {ts ss : List PassState} (h : (PassEnd.served t stopped).states = servedStates ts ss) :
    ts = t.states ∧ ss = stoppedStates stopped := by
  have ht : .serverStopping ∉ t.states := t.serverStopping_notMem
  have hs : .serverStopping ∉ stoppedStates stopped := by
    rcases stopped with e | status <;> simp [stoppedStates]
  obtain ⟨hts,hss⟩ := servedStates_inj ht hs h
  exact ⟨hts.symm,hss.symm⟩

namespace Harness

variable {σ : Type} {H : Harness σ} {config : PassConfig} {acts : List Act}

theorem PassCourse.servedLaw {t : TestEnd} {s : Except IoError WaitStatus}
    (h : H.PassCourse config acts (some (.served t s))) (duration : Duration) :
    ServedLaw config acts ((PassEnd.served t s).result H.locale config duration) t.states
      (stoppedStates s) := by
  obtain ⟨-,-,htest,hstop⟩ := h.answered
  have hkilled := h.runnerKilled_iff
  have hfails {trail : Trail} {reason : Reason} {status : Option WaitStatus}
      (ho : t.outcome H.locale config = .error trail)
      (hf : trail.failure? = some ⟨config.variant.name,reason,status⟩) :
      FailsAs config reason status ((PassEnd.served t s).result H.locale config duration) :=
    ⟨trail,by rw [PassEnd.result,ho,Pass.settle_error],hf⟩
  constructor
  case passed => simp [← testEnd_eq_exited,htest,TestEnd.states_eq_testPassed]
  case failed => simp [← testEnd_eq_exited,htest,hkilled,TestEnd.states_eq_testFailed]
  case neither =>
    simp [← testEnd_eq_notStarted,← testEnd_eq_notAwaited,htest,TestEnd.states_eq_nil]
  case stopped =>
    rw [hstop]
    rcases s with e | status <;> simp [stoppedStates]
  case notStopped =>
    rw [hstop]
    rcases s with e | status <;> simp [stoppedStates]
  case fault_of_stop =>
    intro hp hs
    obtain ⟨status,rfl,hsuccess⟩ := TestEnd.states_eq_testPassed.mp hp
    rcases s with e | stopped
    · exact ⟨_,by simp [PassEnd.result,TestEnd.outcome,hsuccess,Pass.settle],
        Pass.failure?_failedBy H.locale config .fault .serverNotStopped e⟩
    · simp [stoppedStates] at hs
  case testFailed =>
    intro status ht hsuccess
    obtain rfl := Option.some.inj (htest.symm.trans (testEnd_eq_exited.mpr ht))
    exact hfails (by simp [TestEnd.outcome,hsuccess]) (Pass.failure?_failed _ _ _)
  case interrupted =>
    intro hk
    obtain rfl := hkilled.mp hk
    exact hfails rfl (Pass.failure?_failed _ _ _)
  case spawn =>
    intro e ht
    obtain rfl := Option.some.inj (htest.symm.trans (testEnd_eq_notStarted.mpr ht))
    exact hfails rfl (Pass.failure?_failedBy _ _ _ _ _)
  case fault_of_wait =>
    intro e ht
    obtain rfl := Option.some.inj (htest.symm.trans (testEnd_eq_notAwaited.mpr ht))
    exact hfails rfl (Pass.failure?_failedBy _ _ _ _ _)

theorem PassCourse.transitionLaw {finish : PassEnd} {cancelled : Bool}
    (h : H.PassCourse config acts (some finish))
    (hc : cancelled = true ↔ finish = .interrupted) (duration : Duration) :
    TransitionLaw config acts cancelled (finish.result H.locale config duration)
      finish.states := by
  have hanswered := h.answered
  rcases finish with _ | e | ⟨t,stopped⟩
  · -- the run was cancelled at the start
    obtain ⟨-,hm⟩ := hanswered
    have hnone := started_eq_none hm
    constructor
    case interrupted => exact fun _ => ⟨⟨_,rfl,Pass.failure?_failed _ _ _⟩,spawned_notMem hm⟩
    all_goals simp [PassEnd.states,PassEnd.result,servedStates,hnone,hc]
  · obtain ⟨-,hs,-⟩ := hanswered
    constructor
    case serverNotStarted => exact fun _ => ⟨_,rfl,Pass.failure?_failedBy _ _ _ _ _⟩
    all_goals simp [PassEnd.states,PassEnd.result,servedStates,hs,hc]
  · obtain ⟨-,⟨pid,hs⟩,-⟩ := hanswered
    constructor
    case forms => exact .inr (.inr ⟨_,_,rfl,t.states_mem,stoppedStates_mem stopped⟩)
    case served =>
      intro ts ss hstates
      obtain ⟨rfl,rfl⟩ := PassEnd.states_served hstates
      exact h.servedLaw duration
    case served_iff => simpa [hs] using ⟨_,_,rfl⟩
    case ok =>
      rw [PassEnd.result_ok]
      constructor
      · rintro ⟨status,stopped,⟨⟩,hsuccess⟩
        rw [PassEnd.states,TestEnd.states_eq_testPassed.mpr ⟨status,rfl,hsuccess⟩]
        rfl
      · intro hstates
        obtain ⟨ht,hstop⟩ := PassEnd.states_served hstates
        obtain ⟨status,rfl,hsuccess⟩ := TestEnd.states_eq_testPassed.mp ht.symm
        rcases stopped with e | stopped
        · simp [stoppedStates] at hstop
        · exact ⟨status,stopped,rfl,hsuccess⟩
    all_goals simp [PassEnd.states,servedStates,hs,hc]

/-- The transitions of a pass, whatever the host answers and whenever the run is cancelled: a pass
that is over went through the states that its answers and its result say, and one that is not has
gone through those up to where it waits, for the test-runner or for the server.  Such a pass was not
cancelled where it looked first, was given its server, and has used up its patience on the child
that it waits for. -/
theorem runPass_transitions (H : Harness σ) (config : PassConfig) (r : Run σ) :
    ∃ acts states, (H.runPass config r).2.history = r.history ++ acts ∧
      Acts.transitions acts = states.map (config,·) ∧
      (∀ result, (H.runPass config r).1 = some result →
        TransitionLaw config acts (H.enter config .notStarted r).cancelled result states) ∧
      ((H.runPass config r).1 = none → (H.enter config .notStarted r).cancelled = false ∧
        firstSight acts = some false ∧
        (states = [.notStarted,.serverStarting,.serverRunning,.testRunning] ∧
            testEnd acts = none ∧ Unfinished config H.patience acts none ∨
          ∃ test, states = servedStates test.states [] ∧ testEnd acts = some test ∧
            stopAnswer acts = none ∧ Unfinished config H.patience acts (some test))) := by
  obtain ⟨acts,finish,duration,next,heq,hcourse,hn,hc⟩ := H.runPass_course config r
  simp only [heq]
  rcases finish with _ | finish
  · obtain ⟨test,hu,hlook,hnotices⟩ := hcourse.notices_pending
    refine ⟨acts,unfinishedStates test,hn.history,?_,nofun,fun _ => ⟨by simpa using hc,hlook,?_⟩⟩
    · rw [Acts.transitions,hnotices,filterMap_transition_entered]
    · cases hu with
      | testing pid runner hm ht hw => exact .inl ⟨rfl,ht,.testing pid runner hm ht hw⟩
      | stopping pid test hm ht hs hw =>
        exact .inr ⟨_,rfl,ht,hs,.stopping pid test hm ht hs hw⟩
  · refine ⟨acts,_,hn.history,hcourse.transitions,?_,nofun⟩
    rintro result ⟨⟩
    exact hcourse.transitionLaw (by simpa using hc) duration

end Harness
end MatrixHarness
