import MatrixHarness.Proofs.Pass.Ends

/-! # Notices of a pass

What the listener is told in a pass.  The notices of a pass that is over are those of its end, and
what the listener learns from them is read off them alone. -/
namespace MatrixHarness

namespace Acts

def notices (acts : List Act) : List Notice := acts.filterMap Act.notice

@[simp] theorem notices_nil : notices [] = [] := rfl
@[simp] theorem notices_append (xs ys : List Act) :
    notices (xs ++ ys) = notices xs ++ notices ys := List.filterMap_append
theorem notices_cons (a : Act) (acts : List Act) :
    notices (a :: acts) = a.notice.toList ++ notices acts := by
  cases h : a.notice <;> simp [notices,h]

theorem notices_of_isCare {acts : List Act} (h : ∀ a ∈ acts, a.isCare = true) :
    notices acts = [] := by
  refine List.filterMap_eq_nil_iff.mpr fun a ha => ?_
  have hcare := h a ha
  cases a <;> simp_all [Act.isCare,Act.notice]

end Acts

open Acts

theorem Child.ShutDown.notices {pid : Pid} {n : Nat} {acts : List Act}
    {answer : Option (Except IoError WaitStatus)} (h : Child.ShutDown pid n acts answer) :
    Acts.notices acts = [] := by
  cases h with
  | pending h => simp [notices_cons,Act.notice,notices_of_isCare h.isCare]
  | failed answer h => simp [notices_cons,Act.notice,notices_of_isCare h.isCare]
  | ended h => simp [notices_cons,Act.notice,notices_of_isCare h.isCare]

def TestEnd.closing (config : PassConfig) (t : TestEnd) : Except IoError WaitStatus → List Notice
  | .ok _ => [.entered config .serverStopped]
  | .error e => if t.passed then [] else [.cleanupFailed config e]

/-- The states of a pass whose server was started: some of them for the test, and some behind the
end of the server. -/
def servedStates (t s : List PassState) : List PassState :=
  [.notStarted,.serverStarting,.serverRunning,.testRunning] ++ t ++ [.serverStopping] ++ s

/-- The states of a pass that is not over, by the end that its test came to. -/
def unfinishedStates : Option TestEnd → List PassState
  | none => [.notStarted,.serverStarting,.serverRunning,.testRunning]
  | some t => servedStates t.states []

def PassEnd.notices (config : PassConfig) : PassEnd → List Notice
  | interrupted => [.entered config .notStarted]
  | serverNotStarted _ => [.entered config .notStarted,.entered config .serverStarting]
  | served t s => (servedStates t.states []).map (.entered config) ++ t.closing config s

namespace Harness

variable {σ : Type} {H : Harness σ} {config : PassConfig} {acts : List Act}

@[simp] theorem notices_noticeActs (n : Notice) : Acts.notices (H.noticeActs n) = [n] := by
  have hprinted (ps : List (Stream × String)) :
      Acts.notices (ps.map fun p => .printed p.1 p.2) = [] := by
    refine List.filterMap_eq_nil_iff.mpr fun a ha => ?_
    obtain ⟨p,-,rfl⟩ := List.mem_map.mp ha
    rfl
  rw [noticeActs,notices_cons,hprinted]
  rfl

@[simp] theorem notices_enterActs (state : PassState) :
    Acts.notices (H.enterActs config state) = [.entered config state] := notices_noticeActs _

@[simp] theorem notices_servingActs (pid : Pid) : Acts.notices (H.servingActs config pid) =
    [PassState.notStarted,.serverStarting,.serverRunning].map (.entered config) := by
  simp [servingActs,notices_cons,Act.notice]

@[simp] theorem notices_closingActs (t : TestEnd) (s : Except IoError WaitStatus) :
    Acts.notices (H.closingActs config t s) = t.closing config s := by
  rcases s with e | status
  · by_cases ht : t.passed = true <;> simp [closingActs,TestEnd.closing,ht]
  · simp [closingActs,TestEnd.closing]

theorem TestCourse.notices {test : Option TestEnd} (h : H.TestCourse config acts test) :
    Acts.notices acts =
      (.testRunning :: (test.map TestEnd.states).getD []).map (.entered config) := by
  cases h with
  | notStarted e => simp [notices_cons,Act.notice,TestEnd.states]
  | pending h => simp [notices_cons,Act.notice,notices_of_isCare h.isCare]
  | notAwaited h => simp [notices_cons,Act.notice,notices_of_isCare h.isCare,TestEnd.states]
  | ended h => simp [notices_cons,Act.notice,notices_of_isCare h.isCare,TestEnd.states]

theorem PassCourse.notices {finish : PassEnd} (h : H.PassCourse config acts (some finish)) :
    Acts.notices acts = finish.notices config := by
  cases h with
  | interrupted => simp [notices_cons,Act.notice,PassEnd.notices]
  | serverNotStarted e => simp [notices_cons,Act.notice,PassEnd.notices]
  | served ht hs =>
    simp [ht.notices,hs.notices,PassEnd.notices,servedStates]

/-- The notices of a pass that is not over break off where it waits for a child. -/
theorem PassCourse.notices_pending (h : H.PassCourse config acts none) :
    ∃ test, Unfinished config H.patience acts test ∧ firstSight acts = some false ∧
      Acts.notices acts = (unfinishedStates test).map (.entered config) := by
  obtain ⟨test,hu⟩ := h.unfinished
  refine ⟨test,hu,?_⟩
  have htest := hu.testEnd_eq
  cases h with
  | testing ht =>
    obtain rfl : test = none :=
      htest.symm.trans (by simpa using ht.answered [] rfl fun _ => rfl)
    exact ⟨firstSight_servingActs _,by simp [ht.notices,unfinishedStates]⟩
  | stopping ht hs =>
    obtain rfl : test = some _ :=
      htest.symm.trans (ht.answered _ (by simp [hs.sawCancelled]) (by simp))
    exact ⟨firstSight_servingActs _,
      by simp [ht.notices,hs.notices,unfinishedStates,servedStates]⟩

end Harness
end MatrixHarness
