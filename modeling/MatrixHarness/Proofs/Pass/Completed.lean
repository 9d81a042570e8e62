import MatrixHarness.Proofs.Pass.Ends

/-! # Passes that are completed

What it takes for a pass to succeed, in the answers of the host alone, and what was then done: both
processes were started, the test-runner exited with success, and the server was dismissed and
reaped. -/
namespace MatrixHarness

open Acts

/-- All goes well in a pass: the run is not cancelled where the pass looks first, the test-runner
exits with success before the run is seen to be cancelled, and the server is stopped. -/
structure WentWell (acts : List Act) : Prop where
  notCancelled : firstSight acts = some false
  passed : ∃ status, RunnerExited acts status ∧ status.success = true
  stopped : ∃ status, stopAnswer acts = some (.ok status)

namespace Harness

variable {σ : Type} {H : Harness σ} {config : PassConfig} {acts : List Act}

/-- That all went well is an end of a pass of its own. -/
theorem PassCourse.wentWell_iff {finish : Option PassEnd} (h : H.PassCourse config acts finish) :
    WentWell acts ↔ ∃ status stopped,
      finish = some (.served (.ended (.exited status)) (.ok stopped)) ∧ status.success = true := by
  constructor
  · rintro ⟨hsight,⟨status,hexited,hsuccess⟩,stopped,hstop⟩
    have htest := testEnd_eq_exited.mpr hexited
    rcases finish with _ | finish
    · -- the pass is not over, so that either its test or its server is still waited for
      obtain ⟨test,hu⟩ := h.unfinished
      cases hu with
      | testing pid runner hm hnone => simp [hnone] at htest
      | stopping pid test hm ht hnone => simp [hnone] at hstop
    · have hanswered := h.answered
      rcases finish with _ | e | ⟨t,s⟩
      · simp [hanswered.1] at hsight
      · simp [testEnd,hanswered.2.2] at htest
      · obtain ⟨-,-,ht,hs⟩ := hanswered
        rw [htest,Option.some.injEq] at ht
        rw [hstop,Option.some.injEq] at hs
        exact ⟨status,stopped,by rw [ht,hs],hsuccess⟩
  · rintro ⟨status,stopped,rfl,hsuccess⟩
    obtain ⟨hsight,-,htest,hstop⟩ := h.answered
    exact ⟨hsight,⟨status,testEnd_eq_exited.mp htest,hsuccess⟩,stopped,hstop⟩

end Harness

namespace Acts

/-- A server is dismissed: it is asked to terminate, unless the first poll of its shutdown finds
that it has ended by itself. -/
def Dismissed (pid : Pid) (acts : List Act) : Prop :=
  .signaled pid .term (.ok ()) ∈ acts ∨
    ∃ before status after, acts = before ++
      .shutdownBegun (.unreaped pid) :: .polled pid (.ok (some status)) :: after

/-- A pass is completed: a server is started, the test-runner is started and exits with success, and
the server is dismissed and reaped; and no other process is asked for. -/
def Completed (serverWords runnerWords : CommandLine) (acts : List Act) : Prop :=
  ∃ server runner exit stopped,
    milestones acts = [.spawned .server serverWords (.ok server),
      .spawned .testRunner runnerWords (.ok runner),.shutdownBegun (.unreaped server),
      .shutdownEnded (.unreaped server) (.ok stopped)] ∧
    RunnerExited acts exit ∧ exit.success = true ∧ Dismissed server acts ∧
    stopAnswer acts = some (.ok stopped)

end Acts

theorem Child.ShutDown.dismissed {pid : Pid} {n : Nat} {acts : List Act} {status : WaitStatus}
    (h : Child.ShutDown pid n acts (some (.ok status))) : Dismissed pid acts := by
  cases h with
  | ended h =>
    cases h with
    | ended status => exact .inr ⟨[],status,_,rfl⟩
    | asked h => exact .inl (by simp)

theorem Acts.Dismissed.append {pid : Pid} {acts : List Act} (h : Dismissed pid acts)
    (before after : List Act) : Dismissed pid (before ++ (acts ++ after)) := by
  rcases h with h | ⟨first,status,rest,rfl⟩
  · exact .inl (by simp [h])
  · exact .inr ⟨before ++ first,status,rest ++ after,by simp⟩

namespace Harness

variable {σ : Type} {H : Harness σ} {config : PassConfig} {acts : List Act}

theorem PassCourse.completed {finish : PassEnd} {duration : Duration} {result : PassResult}
    (h : H.PassCourse config acts (some finish))
    (hr : finish.result H.locale config duration = .ok result) :
    Completed config.serverCommandLine config.testRunnerCommandLine acts := by
  obtain ⟨status,stopped,rfl,hsuccess⟩ := PassEnd.result_ok.mp ⟨result,hr⟩
  obtain ⟨-,-,htest,hstop⟩ := h.answered
  have hexited := testEnd_eq_exited.mp htest
  cases h with
  | @served pid test stop _ _ ht hs =>
    have hdismissed := hs.dismissed.append
      (H.servingActs config pid ++ (test ++ H.enterActs config .serverStopping))
      (H.closingActs config (.ended (.exited status)) (.ok stopped))
    simp only [List.append_assoc] at hdismissed
    refine ⟨pid,?_⟩
    cases ht with
    | @ended runner wait _ hw =>
      refine ⟨runner,status,stopped,?_,hexited,hsuccess,hdismissed,hstop⟩
      simp [milestones_cons,Act.isMilestone,milestones_of_isCare hw.isCare,hs.milestones]

end Harness
end MatrixHarness
