import Mathlib.Data.List.Basic
import MatrixHarness.Proofs.Pass.Answers

/-! # Ends of a pass

A pass comes to the end that the host's answers tell, and what it does to processes follows one
pattern: a server, then a test-runner, then the shutdown of that server. -/
namespace MatrixHarness

open Acts

/-- Where a pass that is not over still waits: for the test-runner, or, once the test came to an
end, for the server that it shuts down. -/
inductive Unfinished (config : PassConfig) (patience : Nat) (acts : List Act) :
    Option TestEnd → Prop
  | testing (pid runner : Pid) :
    milestones acts = [.spawned .server config.serverCommandLine (.ok pid),
      .spawned .testRunner config.testRunnerCommandLine (.ok runner)] →
    testEnd acts = none → StillWaits runner patience acts → Unfinished config patience acts none
  | stopping (pid : Pid) (test : Except IoError Pid) {t : TestEnd} :
    milestones acts = [.spawned .server config.serverCommandLine (.ok pid),
      .spawned .testRunner config.testRunnerCommandLine test,.shutdownBegun (.unreaped pid)] →
    testEnd acts = some t → stopAnswer acts = none →
    StillWaits pid (patience + 1) (shutdownActs acts) → Unfinished config patience acts (some t)

/-- What becomes of the server of a pass, in the order of time: its start, the start of the
test-runner, and the shutdown.  The flag says that the pass is over. -/
inductive ServerLife (config : PassConfig) (patience : Nat) (acts : List Act) : Bool → Prop
  | notWanted : firstSight acts = some true → milestones acts = [] →
    ServerLife config patience acts true
  | notStarted (e : IoError) :
    milestones acts = [.spawned .server config.serverCommandLine (.error e)] →
    ServerLife config patience acts true
  | stopped (pid : Pid) (test : Except IoError Pid) (answer : Except IoError WaitStatus) :
    milestones acts = [.spawned .server config.serverCommandLine (.ok pid),
      .spawned .testRunner config.testRunnerCommandLine test,.shutdownBegun (.unreaped pid),
      .shutdownEnded (.unreaped pid) answer] → ServerLife config patience acts true
  | unfinished {test : Option TestEnd} : Unfinished config patience acts test →
    ServerLife config patience acts false

theorem Unfinished.testEnd_eq {config : PassConfig} {patience : Nat} {acts : List Act}
    {test : Option TestEnd} (h : Unfinished config patience acts test) : testEnd acts = test := by
  cases h <;> assumption

theorem Unfinished.not_over {config : PassConfig} {patience : Nat} {acts : List Act}
    {test : Option TestEnd} (h : Unfinished config patience acts test) :
    ¬ServerLife config patience acts true := by
  intro hlife
  cases h <;> cases hlife <;> simp_all

def Answered (acts : List Act) : PassEnd → Prop
  | .interrupted => firstSight acts = some true ∧ milestones acts = []
  | .serverNotStarted e => firstSight acts = some false ∧
    started .server acts = some (.error e) ∧ started .testRunner acts = none
  | .served test stopped => firstSight acts = some false ∧
    (∃ pid, started .server acts = some (.ok pid)) ∧
    testEnd acts = some test ∧ stopAnswer acts = some stopped

theorem waitedFor_append {pid : Pid} {before wait after : List Act}
    {answer : Option (Except IoError Waited)} (hw : waitedFor pid wait = answer)
    (he : endOf pid before = none) (hb : sawCancelled before = false)
    (ha : sawCancelled after = false) (hp : answer = none → after = []) :
    waitedFor pid (before ++ (wait ++ after)) = answer := by
  subst hw
  simp only [waitedFor,endOf_append,sawCancelled_append,he,hb,ha,Option.none_or,Bool.false_or,
    Bool.or_false]
  rcases hend : endOf pid wait with _ | answer
  · have hnil : after = [] := hp (by simp [waitedFor,hend])
    simp [hnil]
  · simp

theorem testEnd_append {pid : Pid} {cl : CommandLine} {before wait after : List Act}
    {answer : Option (Except IoError Waited)} (hw : waitedFor pid wait = answer)
    (hs : started .testRunner before = none) (he : endOf pid before = none)
    (hb : sawCancelled before = false) (ha : sawCancelled after = false)
    (hp : answer = none → after = []) :
    testEnd (before ++ .spawned .testRunner cl (.ok pid) :: (wait ++ after)) =
      answer.map endOfWait := by
  have hwait : waitedFor pid ((before ++ [.spawned .testRunner cl (.ok pid)]) ++ (wait ++ after)) =
      answer :=
    waitedFor_append hw (by simp [he,endOf_cons,Act.endFor]) (by simp [hb,Act.seesCancelled]) ha hp
  rw [List.append_assoc,List.singleton_append] at hwait
  simp [testEnd,hs,started_cons,Act.startIn,hwait]

namespace Harness

variable {σ : Type} {H : Harness σ} {config : PassConfig} {acts before after : List Act} {n : Nat}

theorem firstSight_enterActs (state : PassState) (b : Bool) :
    firstSight (H.enterActs config state ++ .looked b :: acts) = some b := by
  have hn : (H.enterActs config state).findSome? Act.sight = none := by
    refine List.findSome?_eq_none_iff.mpr fun a ha => ?_
    rcases mem_noticeActs ha with rfl | ⟨s,t,rfl⟩ <;> rfl
  rw [firstSight,List.findSome?_append,hn,Option.none_or]
  rfl

theorem firstSight_servingActs (pid : Pid) :
    firstSight (H.servingActs config pid ++ acts) = some false := by
  simpa only [servingActs,List.append_assoc,List.cons_append] using
    firstSight_enterActs .notStarted false

@[simp] theorem milestones_servingActs (pid : Pid) :
    milestones (H.servingActs config pid) =
      [.spawned .server config.serverCommandLine (.ok pid)] := by
  simp [servingActs,milestones_cons,Act.isMilestone]

@[simp] theorem endOf_servingActs (p pid : Pid) :
    endOf p (H.servingActs config pid) = none := by
  simp [servingActs,endOf_cons,Act.endFor]

@[simp] theorem vainPolls_servingActs (p pid : Pid) :
    vainPolls p (H.servingActs config pid) = 0 := by
  simp [servingActs,vainPolls_cons,Act.findsRunning]

@[simp] theorem sawCancelled_servingActs (pid : Pid) :
    sawCancelled (H.servingActs config pid) = false := by
  simp [servingActs,Act.seesCancelled]

@[simp] theorem started_server_servingActs (pid : Pid) :
    started .server (H.servingActs config pid) = some (.ok pid) := by
  rw [← started_milestones,milestones_servingActs]
  rfl

@[simp] theorem started_testRunner_servingActs (pid : Pid) :
    started .testRunner (H.servingActs config pid) = none := by
  rw [← started_milestones,milestones_servingActs]
  rfl

@[simp] theorem milestones_closingActs (t : TestEnd) (s : Except IoError WaitStatus) :
    milestones (H.closingActs config t s) = [] := by
  rcases s with e | status
  · by_cases ht : t.passed = true <;> simp [closingActs,ht]
  · simp [closingActs]

@[simp] theorem endOf_closingActs (pid : Pid) (t : TestEnd) (s : Except IoError WaitStatus) :
    endOf pid (H.closingActs config t s) = none := by
  rcases s with e | status
  · by_cases ht : t.passed = true <;> simp [closingActs,ht]
  · simp [closingActs]

@[simp] theorem sawCancelled_closingActs (t : TestEnd) (s : Except IoError WaitStatus) :
    sawCancelled (H.closingActs config t s) = false := by
  rcases s with e | status
  · by_cases ht : t.passed = true <;> simp [closingActs,ht]
  · simp [closingActs]

/-- Whatever stands around a test, its answers tell how it ended. -/
theorem TestCourse.testEnd {test : Option TestEnd} (h : H.TestCourse config acts test)
    (hs : started .testRunner before = none) (he : ∀ pid, endOf pid before = none)
    (hb : sawCancelled before = false) (ha : sawCancelled after = false)
    (hp : test = none → after = []) : Acts.testEnd (before ++ (acts ++ after)) = test := by
  -- the notice of the test goes to what stands before it
  have hs' : started .testRunner (before ++ H.enterActs config .testRunning) = none := by simp [hs]
  have he' (pid : Pid) : endOf pid (before ++ H.enterActs config .testRunning) = none := by
    simp [he]
  have hb' : sawCancelled (before ++ H.enterActs config .testRunning) = false := by simp [hb]
  cases h with
  | notStarted e => simp [Acts.testEnd,started_cons,Act.startIn,hs]
  | @pending pid _ h =>
    simpa using testEnd_append h.waitedFor hs' (he' pid) hb' ha fun _ => hp rfl
  | @notAwaited pid _ _ h =>
    simpa [endOfWait] using testEnd_append h.waitedFor hs' (he' pid) hb' ha (by simp)
  | @ended pid wait w h =>
    have ha' : sawCancelled (H.enterActs config w.state ++ after) = false := by simp [ha]
    simpa [endOfWait] using testEnd_append h.waitedFor hs' (he' pid) hb' ha' (by simp)

theorem TestCourse.answered {test : List Act} {t : Option TestEnd} {pid : Pid}
    (h : H.TestCourse config test t) (after : List Act) (ha : sawCancelled after = false)
    (hp : t = none → after = []) :
    Acts.testEnd (H.servingActs config pid ++ (test ++ after)) = t :=
  h.testEnd (by simp) (by simp) (by simp) ha hp

theorem noShutdown_before (pid : Pid) {test : List Act} {t : Option TestEnd}
    (ht : H.TestCourse config test t) :
    ∀ a ∈ H.servingActs config pid ++ (test ++ H.enterActs config .serverStopping),
      a.beginsShutdown = false := by
  obtain ⟨test',hm⟩ := ht.milestones
  exact beginsShutdown_of_milestones (by simp [hm,Act.beginsShutdown])

theorem shutdownActs_eq {pid : Pid} {test stop : List Act} {t : Option TestEnd}
    {answer : Option (Except IoError WaitStatus)} (ht : H.TestCourse config test t)
    (hs : Child.ShutDown pid n stop answer) (after : List Act) :
    shutdownActs (H.servingActs config pid ++ (test ++ (H.enterActs config .serverStopping ++
      (stop ++ after)))) = stop ++ after := by
  simpa only [List.append_assoc] using hs.shutdownActs after (noShutdown_before pid ht)

/-- The answers to a shutdown, from those of the whole pass. -/
theorem stopAnswer_eq {pid : Pid} {test stop : List Act} {t : Option TestEnd}
    {answer : Option (Except IoError WaitStatus)} (ht : H.TestCourse config test t)
    (hs : Child.ShutDown pid n stop answer) (after : List Act) (ha : endOf pid after = none) :
    stopAnswer (H.servingActs config pid ++ (test ++ (H.enterActs config .serverStopping ++
      (stop ++ after)))) = answer := by
  simp [stopAnswer,shutdownActs_eq ht hs after,hs.endOf,ha]

/-- The shutdown of a server begins where its test is over. -/
theorem testEnd_at_shutdown {pid : Pid} {test stop before : List Act} {t : TestEnd} {c : Child}
    {answer : Option (Except IoError WaitStatus)} (ht : H.TestCourse config test (some t))
    (hs : Child.ShutDown pid n stop answer) (acts : List Act) (ha : milestones acts = [])
    (hb : H.servingActs config pid ++ (test ++ (H.enterActs config .serverStopping ++
      (stop ++ acts))) = before ++ .shutdownBegun c :: after) :
    Acts.testEnd before = some t := by
  obtain ⟨rest,rfl,hrest⟩ := hs.begins
  have hbefore := noShutdown_before pid ht
  have hafter : ∀ a ∈ rest ++ acts, a.beginsShutdown = false := by
    refine beginsShutdown_of_milestones ?_
    rcases answer with _ | s <;> simp [hrest,ha,Act.beginsShutdown]
  have hsplit : (H.servingActs config pid ++ (test ++ H.enterActs config .serverStopping)) ++
      .shutdownBegun (.unreaped pid) :: (rest ++ acts) = before ++ .shutdownBegun c :: after := by
    simpa using hb
  -- the shutdown is begun only once, so that there is only one place to split
  have hnot (xs : List Act) (h : ∀ a ∈ xs, a.beginsShutdown = false) :
      Act.shutdownBegun c ∉ xs := fun hm => by simpa [Act.beginsShutdown] using h _ hm
  obtain ⟨rfl,-,-⟩ := (List.append_cons_inj_of_notMem (hnot _ hbefore) (hnot _ hafter)).mp hsplit
  exact ht.answered _ (by simp) (by simp)

theorem TestCourse.stillWaits (h : H.TestCourse config acts none) : ∃ runner,
    Acts.milestones acts = [.spawned .testRunner config.testRunnerCommandLine (.ok runner)] ∧
      StillWaits runner H.patience acts := by
  cases h with
  | @pending runner wait hw =>
    refine ⟨runner,by simp [milestones_cons,Act.isMilestone,milestones_of_isCare hw.isCare],?_⟩
    rw [List.append_cons]
    exact hw.stillWaits.behind (by simp [endOf_cons,Act.endFor])
      (by simp [vainPolls_cons,Act.findsRunning])

theorem PassCourse.unfinished (h : H.PassCourse config acts none) :
    ∃ test, Unfinished config H.patience acts test := by
  cases h with
  | @testing pid test ht =>
    obtain ⟨runner,hm,hw⟩ := ht.stillWaits
    refine ⟨none,.testing pid runner (by simp [hm]) ?_ (hw.behind (by simp) (by simp))⟩
    simpa using ht.answered [] rfl fun _ => rfl
  | @stopping pid test stop t ht hs =>
    obtain ⟨runner,hm⟩ := ht.milestones
    have hshutdown : shutdownActs (H.servingActs config pid ++
        (test ++ (H.enterActs config .serverStopping ++ stop))) = stop := by
      simpa using shutdownActs_eq ht hs []
    refine ⟨some t,.stopping pid runner (by simp [hm,hs.milestones]) ?_ ?_ ?_⟩
    · exact ht.answered _ (by simp [hs.sawCancelled]) nofun
    · simpa using stopAnswer_eq ht hs [] rfl
    · rw [hshutdown]
      exact hs.stillWaits

theorem PassCourse.serverLife {finish : Option PassEnd} (h : H.PassCourse config acts finish) :
    ServerLife config H.patience acts finish.isSome := by
  rcases finish with _ | finish
  · obtain ⟨test,ht⟩ := h.unfinished
    exact .unfinished ht
  · cases h with
    | interrupted =>
      exact .notWanted (firstSight_enterActs .notStarted true)
        (by simp [milestones_cons,Act.isMilestone])
    | serverNotStarted e =>
      exact .notStarted e (by simp [milestones_cons,Act.isMilestone])
    | @served pid _ _ _ s ht hs =>
      obtain ⟨test,hm⟩ := ht.milestones
      exact .stopped pid test s (by simp [hm,hs.milestones])

/-- A pass comes to the end that its answers tell. -/
theorem PassCourse.answered {finish : PassEnd} (h : H.PassCourse config acts (some finish)) :
    Answered acts finish := by
  cases h with
  | interrupted =>
    exact ⟨firstSight_enterActs .notStarted true,by simp [milestones_cons,Act.isMilestone]⟩
  | serverNotStarted e =>
    exact ⟨firstSight_enterActs .notStarted false,by simp [started_cons,Act.startIn],
      by simp [started_cons,Act.startIn]⟩
  | @served pid _ _ _ _ ht hs =>
    refine ⟨firstSight_servingActs _,⟨pid,by simp⟩,?_,?_⟩
    · exact ht.answered _ (by simp [hs.sawCancelled]) (by simp)
    · exact stopAnswer_eq ht hs _ (by simp)

/-- The acts of a pass in which a shutdown begins or ends: up to a server that runs, the test, and
the shutdown. -/
theorem PassCourse.with_shutdown {finish : Option PassEnd} (h : H.PassCourse config acts finish)
    {a : Act} (ha : a ∈ acts) (hs : a.isShutdown = true) :
    ∃ pid test t stop answer rest, H.TestCourse config test (some t) ∧
      Child.ShutDown pid H.patience stop answer ∧ milestones rest = [] ∧
      (∀ p, endOf p rest = none) ∧
      acts = H.servingActs config pid ++ (test ++ (H.enterActs config .serverStopping ++
        (stop ++ rest))) := by
  have hmem : a ∈ milestones acts := mem_milestones.mpr ⟨ha,a.isMilestone_of_isShutdown hs⟩
  cases h with
  | interrupted => simp [milestones_cons,Act.isMilestone] at hmem
  | serverNotStarted e =>
    simp only [milestones_append,milestones_enterActs,milestones_cons,milestones_nil,
      Act.isMilestone,if_true,List.nil_append,Bool.false_eq_true,if_false,
      List.mem_singleton] at hmem
    simp [hmem,Act.isShutdown] at hs
  | testing ht =>
    obtain ⟨test,hm⟩ := ht.milestones
    simp only [milestones_append,milestones_servingActs,hm,List.mem_append,
      List.mem_singleton] at hmem
    rcases hmem with rfl | rfl <;> simp [Act.isShutdown] at hs
  | stopping ht hd => exact ⟨_,_,_,_,_,[],ht,hd,rfl,fun _ => rfl,by simp⟩
  | served ht hd => exact ⟨_,_,_,_,_,_,ht,hd,by simp,by simp,rfl⟩

end Harness
end MatrixHarness
