import MatrixHarness.Proofs.Pass.Notices

/-! # Failures of a pass

The stages at which a pass can fail, in their order, and the error of a pass that failed.  It is
that of the first stage that failed, with its cause; a server that cannot be stopped either is
reported beside it. -/
namespace MatrixHarness

inductive FailedStage where
  /-- The run was cancelled where the pass looks first. -/
  | start
  | server (e : IoError)
  | testRunner (e : IoError)
  /-- The test-runner could not be waited for, or not be killed. -/
  | wait (e : IoError)
  | verdict (w : Waited)
  | stop (e : IoError)
  deriving DecidableEq

namespace FailedStage

def reason : FailedStage → Reason
  | start => .interrupted
  | server _ => .spawn
  | testRunner _ => .spawn
  | wait _ => .fault
  | verdict (.exited _) => .testFailed
  | verdict .cancelled => .interrupted
  | stop _ => .fault

def status : FailedStage → Option WaitStatus
  | verdict (.exited status) => some status
  | _ => none

def cause (config : PassConfig) : FailedStage → Option (Message × IoError)
  | server e => some (.serverNotStarted config.server.lossy,e)
  | testRunner e => some (.testRunnerNotStarted config.testRunner.lossy,e)
  | wait e => some (.testRunnerNotAwaited,e)
  | stop e => some (.serverNotStopped,e)
  | _ => none

def failure (config : PassConfig) (s : FailedStage) : PassFailure :=
  ⟨config.variant.name,s.reason,s.status⟩

def trail (locale : String) (config : PassConfig) (s : FailedStage) : Trail :=
  match s.cause config with
  | none => Pass.failed config s.reason s.status
  | some (message,e) => Pass.failedBy locale config s.reason message e

theorem failure?_trail (locale : String) (config : PassConfig) (s : FailedStage) :
    (s.trail locale config).failure? = some (s.failure config) := by
  rcases s with _ | e | e | e | (status | _) | e
  · exact Pass.failure?_failed config _ _
  · exact Pass.failure?_failedBy locale config _ _ e
  · exact Pass.failure?_failedBy locale config _ _ e
  · exact Pass.failure?_failedBy locale config _ _ e
  · exact Pass.failure?_failed config _ _
  · exact Pass.failure?_failed config _ _
  · exact Pass.failure?_failedBy locale config _ _ e

theorem isSome_status (s : FailedStage) : s.status.isSome = true ↔ s.reason = .testFailed := by
  rcases s with _ | e | e | e | (w | _) | e <;> simp [status,reason]

/-- A failure for want of a call tells the stage and ends with the error of that call. -/
theorem trail_caused (locale : String) (config : PassConfig) {s : FailedStage}
    (h : s.reason = .spawn ∨ s.reason = .fault) :
    ∃ message e, s.cause config = some (message,e) ∧
      s.trail locale config =
        ⟨[.failure (s.failure config),.worded (message.text locale)],.io e⟩ := by
  rcases s with _ | e | e | e | (status | _) | e
  case server => exact ⟨_,e,rfl,rfl⟩
  case testRunner => exact ⟨_,e,rfl,rfl⟩
  case wait => exact ⟨_,e,rfl,rfl⟩
  case stop => exact ⟨_,e,rfl,rfl⟩
  all_goals simp [reason] at h

theorem trail_bare (locale : String) (config : PassConfig) {s : FailedStage}
    (h : s.reason = .testFailed ∨ s.reason = .interrupted) :
    s.trail locale config = ⟨[],.failure (s.failure config)⟩ := by
  rcases s with _ | e | e | e | (status | _) | e
  case start => rfl
  case verdict.exited => rfl
  case verdict.cancelled => rfl
  all_goals simp [reason] at h

end FailedStage

def TestEnd.failedStages : TestEnd → List FailedStage
  | notStarted e => [.testRunner e]
  | notAwaited e => [.wait e]
  | ended w => if w.passed then [] else [.verdict w]

def stopFailures : Except IoError WaitStatus → List FailedStage
  | .ok _ => []
  | .error e => [.stop e]

def PassEnd.failedStages : PassEnd → List FailedStage
  | interrupted => [.start]
  | serverNotStarted e => [.server e]
  | served t s => t.failedStages ++ stopFailures s

def Notice.cleanup : Notice → Option (PassConfig × IoError)
  | cleanupFailed config e => some (config,e)
  | entered _ _ => none

open Acts

namespace Acts

def failedStages (acts : List Act) : List FailedStage :=
  (match firstSight acts with
    | some true => [.start]
    | _ => []) ++
  (match started .server acts with
    | some (.error e) => [.server e]
    | _ => []) ++
  ((testEnd acts).map TestEnd.failedStages).getD [] ++
  ((stopAnswer acts).map stopFailures).getD []

def cleanups (acts : List Act) : List (PassConfig × IoError) :=
  (notices acts).filterMap Notice.cleanup

end Acts

/-- A pass failed with this error at this stage first, and at these ones later. -/
structure FailsAt (locale : String) (config : PassConfig) (acts : List Act) (t : Trail)
    (stage : FailedStage) (later : List FailedStage) : Prop where
  stages : failedStages acts = stage :: later
  failure : t.failure? = some ⟨config.variant.name,stage.reason,stage.status⟩
  status_iff : stage.status.isSome = true ↔ stage.reason = .testFailed
  status : ∀ status, stage.status = some status →
    RunnerExited acts status ∧ status.success = false
  caused : stage.reason = .spawn ∨ stage.reason = .fault →
    ∃ message e, stage.cause config = some (message,e) ∧ t.root = .io e ∧
      t.accounts = [.failure (stage.failure config),.worded (message.text locale),.io e]
  bare : stage.reason = .testFailed ∨ stage.reason = .interrupted →
    t.accounts = [.failure (stage.failure config)]
  cleanup : later = [] ∧ cleanups acts = [] ∨
    ∃ e, later = [.stop e] ∧ cleanups acts = [(config,e)]

theorem FailedStage.failsAt {locale : String} {config : PassConfig} {acts : List Act}
    {stage : FailedStage} {later : List FailedStage} (hs : Acts.failedStages acts = stage :: later)
    (hstatus : ∀ status, stage.status = some status →
      RunnerExited acts status ∧ status.success = false)
    (hcleanup : later = [] ∧ Acts.cleanups acts = [] ∨
      ∃ e, later = [.stop e] ∧ Acts.cleanups acts = [(config,e)]) :
    FailsAt locale config acts (stage.trail locale config) stage later where
  stages := hs
  failure := stage.failure?_trail locale config
  status_iff := stage.isSome_status
  status := hstatus
  caused h := by
    obtain ⟨message,e,hc,ht⟩ := trail_caused locale config h
    exact ⟨message,e,hc,by rw [ht],by rw [ht]; rfl⟩
  bare h := by
    rw [trail_bare locale config h]
    rfl
  cleanup := hcleanup

namespace TestEnd

variable {t : TestEnd}

theorem failedStages_of_passed (h : t.passed = true) : t.failedStages = [] := by
  rcases t with e | e | w
  · simp [passed] at h
  · simp [passed] at h
  · have hw : w.passed = true := h
    simp [failedStages,hw]

/-- A test that did not pass failed at one stage, and its error is of that stage. -/
theorem failedStages_of_failed (h : t.passed = false) (locale : String) (config : PassConfig) :
    ∃ stage, t.failedStages = [stage] ∧ t.outcome locale config = .error (stage.trail locale config)
      ∧ ∀ status, stage.status = some status →
        t = .ended (.exited status) ∧ status.success = false := by
  rcases t with e | e | (status | _)
  · exact ⟨.testRunner e,rfl,rfl,by simp [FailedStage.status]⟩
  · exact ⟨.wait e,rfl,rfl,by simp [FailedStage.status]⟩
  · have hs : status.success = false := h
    refine ⟨.verdict (.exited status),by simp [failedStages,Waited.passed,hs],?_,?_⟩
    · simp [outcome,hs,FailedStage.trail,FailedStage.cause,FailedStage.reason,FailedStage.status]
    · rintro _ ⟨⟩
      exact ⟨rfl,hs⟩
  · exact ⟨.verdict .cancelled,rfl,rfl,by simp [FailedStage.status]⟩

end TestEnd

namespace Harness

variable {σ : Type} {H : Harness σ} {config : PassConfig} {acts : List Act}

theorem PassCourse.failedStages {finish : PassEnd} (h : H.PassCourse config acts (some finish)) :
    Acts.failedStages acts = finish.failedStages := by
  have hanswered := h.answered
  rcases finish with _ | e | ⟨t,s⟩
  · obtain ⟨hf,hm⟩ := hanswered
    simp [Acts.failedStages,hf,started_eq_none hm,testEnd,stopAnswer,PassEnd.failedStages]
  · obtain ⟨hf,hs,ht⟩ := hanswered
    simp [Acts.failedStages,hf,hs,testEnd,ht,stopAnswer,PassEnd.failedStages]
  · obtain ⟨hf,⟨pid,hs⟩,ht,hstop⟩ := hanswered
    simp [Acts.failedStages,hf,hs,ht,hstop,PassEnd.failedStages]

/-- The listener learns of a server that cannot be stopped only behind a test that failed. -/
theorem PassCourse.cleanups {finish : PassEnd} (h : H.PassCourse config acts (some finish)) :
    Acts.cleanups acts = match finish with
      | .served t (.error e) => if t.passed then [] else [(config,e)]
      | _ => [] := by
  have hentered (states : List PassState) :
      (states.map (.entered config)).filterMap Notice.cleanup = [] := by
    refine List.filterMap_eq_nil_iff.mpr fun n hn => ?_
    obtain ⟨state,-,rfl⟩ := List.mem_map.mp hn
    rfl
  rw [Acts.cleanups,h.notices]
  rcases finish with _ | e | ⟨t,e | status⟩
  · rfl
  · rfl
  · rw [PassEnd.notices,List.filterMap_append,hentered]
    by_cases ht : t.passed = true <;> simp [TestEnd.closing,ht,Notice.cleanup]
  · rw [PassEnd.notices,List.filterMap_append,hentered]
    rfl

theorem PassCourse.failedStages_of_ok {finish : PassEnd} {duration : Duration}
    {result : PassResult} (h : H.PassCourse config acts (some finish))
    (hr : finish.result H.locale config duration = .ok result) :
    Acts.failedStages acts = [] ∧ Acts.cleanups acts = [] := by
  rw [h.failedStages,h.cleanups]
  obtain ⟨status,stopped,rfl,hs⟩ := PassEnd.result_ok.mp ⟨result,hr⟩
  have hp : (TestEnd.ended (.exited status)).passed = true := hs
  exact ⟨by simp [PassEnd.failedStages,TestEnd.failedStages_of_passed hp,stopFailures],rfl⟩

/-- A pass that failed has the error of its first stage that did. -/
theorem PassCourse.failsAt {finish : PassEnd} {duration : Duration} {t : Trail}
    (h : H.PassCourse config acts (some finish))
    (hr : finish.result H.locale config duration = .error t) :
    ∃ stage later, FailsAt H.locale config acts t stage later := by
  have hstages := h.failedStages
  have hcleanups := h.cleanups
  have hanswered := h.answered
  rcases finish with _ | e | ⟨test,s⟩
  · obtain rfl : FailedStage.start.trail H.locale config = t := Except.error.inj hr
    exact ⟨_,_,FailedStage.failsAt hstages (by simp [FailedStage.status]) (.inl ⟨rfl,hcleanups⟩)⟩
  · obtain rfl : (FailedStage.server e).trail H.locale config = t := Except.error.inj hr
    exact ⟨_,_,FailedStage.failsAt hstages (by simp [FailedStage.status]) (.inl ⟨rfl,hcleanups⟩)⟩
  · obtain ⟨-,-,htest,-⟩ := hanswered
    rw [PassEnd.result] at hr
    rw [PassEnd.failedStages] at hstages
    rcases hp : test.passed
    · -- the test failed, and the server is no more than a matter of its own
      obtain ⟨stage,hstage,ho,hstatus⟩ := TestEnd.failedStages_of_failed hp H.locale config
      rw [ho,Pass.settle_error] at hr
      rw [hstage] at hstages
      obtain rfl : stage.trail H.locale config = t := Except.error.inj hr
      refine ⟨stage,stopFailures s,FailedStage.failsAt hstages ?_ ?_⟩
      · intro status hs
        obtain ⟨rfl,hsuccess⟩ := hstatus status hs
        exact ⟨testEnd_eq_exited.mp htest,hsuccess⟩
      · rcases s with e | status
        · exact .inr ⟨e,rfl,by simpa [hp] using hcleanups⟩
        · exact .inl ⟨rfl,hcleanups⟩
    · have ho : test.outcome H.locale config = .ok () := (test.passed_iff _ _).mp hp
      rw [ho] at hr
      rw [TestEnd.failedStages_of_passed hp] at hstages
      rcases s with e | status
      · obtain rfl : (FailedStage.stop e).trail H.locale config = t := Except.error.inj hr
        exact ⟨_,_,FailedStage.failsAt hstages (by simp [FailedStage.status])
          (.inl ⟨rfl,by simpa [hp] using hcleanups⟩)⟩
      · simp [Pass.settle] at hr

end Harness
end MatrixHarness
