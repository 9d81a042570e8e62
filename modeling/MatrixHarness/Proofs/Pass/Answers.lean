import MatrixHarness.Proofs.Pass.Course

/-! # Answers

What the host answered in a pass, read off the bare acts: whether the processes were started, how
the wait for each of them ended, and whether the run was seen to be cancelled.  Nothing here looks
at what the listener is told.  The main statements say that the course of a pass comes to the end
that these answers tell. -/
namespace MatrixHarness
namespace Act

def startIn (role : Role) : Act → Option (Except IoError Pid)
  | spawned r _ answer => if r = role then some answer else none
  | _ => none

/-- The answer that ends the wait for a process: its status, or the error of a call on it. -/
def endFor (pid : Pid) : Act → Option (Except IoError WaitStatus)
  | polled p (.ok (some status)) => if p = pid then some (.ok status) else none
  | polled p (.error e) => if p = pid then some (.error e) else none
  | signaled p _ (.error e) => if p = pid then some (.error e) else none
  | _ => none

def findsRunning (pid : Pid) : Act → Bool
  | polled p (.ok none) => p = pid
  | _ => false

def sight : Act → Option Bool
  | looked cancelled => some cancelled
  | _ => none

def seesCancelled : Act → Bool
  | looked cancelled => cancelled
  | _ => false

def beginsShutdown : Act → Bool
  | shutdownBegun _ => true
  | _ => false

def isShutdown : Act → Bool
  | shutdownBegun _ => true
  | shutdownEnded _ _ => true
  | _ => false

/-- A process is started, or a child begins or ceases to be shut down. -/
def isMilestone : Act → Bool
  | spawned _ _ _ => true
  | shutdownBegun _ => true
  | shutdownEnded _ _ => true
  | _ => false

def isNotice : Act → Bool
  | told _ => true
  | printed _ _ => true
  | _ => false

def isCare : Act → Bool
  | polled _ _ => true
  | signaled _ _ _ => true
  | paused => true
  | looked _ => true
  | _ => false

theorem isMilestone_of_isShutdown (a : Act) (h : a.isShutdown = true) : a.isMilestone = true := by
  cases a <;> first | rfl | exact h

end Act

namespace Acts

/-- The first answer to the start of a process in a role. -/
def started (role : Role) (acts : List Act) : Option (Except IoError Pid) :=
  acts.findSome? (Act.startIn role)

def endOf (pid : Pid) (acts : List Act) : Option (Except IoError WaitStatus) :=
  acts.findSome? (Act.endFor pid)

/-- How often a process was polled in vain. -/
def vainPolls (pid : Pid) (acts : List Act) : Nat := acts.countP (Act.findsRunning pid)

/-- The wait for a process is not over: no answer ended it, and all the patience there was went into
polls that found the process running. -/
structure StillWaits (pid : Pid) (patience : Nat) (acts : List Act) : Prop where
  unanswered : endOf pid acts = none
  vainPolls : vainPolls pid acts = patience

def firstSight (acts : List Act) : Option Bool := acts.findSome? Act.sight

def sawCancelled (acts : List Act) : Bool := acts.any Act.seesCancelled

def milestones (acts : List Act) : List Act := acts.filter Act.isMilestone

/-- How the test-runner was waited for.  If the run was seen to be cancelled meanwhile, its end is
that of a child that was killed. -/
def waitedFor (pid : Pid) (acts : List Act) : Option (Except IoError Waited) :=
  (endOf pid acts).map fun
    | .error e => .error e
    | .ok status => .ok (if sawCancelled acts then .cancelled else .exited status)

def endOfWait : Except IoError Waited → TestEnd
  | .error e => .notAwaited e
  | .ok w => .ended w

def testEnd (acts : List Act) : Option TestEnd :=
  match started .testRunner acts with
  | none => none
  | some (.error e) => some (.notStarted e)
  | some (.ok pid) => (waitedFor pid acts).map endOfWait

def shutdownActs (acts : List Act) : List Act := acts.dropWhile fun a => !a.beginsShutdown

/-- How the server was stopped: the end of the wait for it, once its shutdown began. -/
def stopAnswer (acts : List Act) : Option (Except IoError WaitStatus) :=
  match started .server acts with
  | some (.ok pid) => endOf pid (shutdownActs acts)
  | _ => none

@[simp] theorem started_nil (role : Role) : started role [] = none := rfl
@[simp] theorem started_append (role : Role) (xs ys : List Act) :
    started role (xs ++ ys) = (started role xs).or (started role ys) := List.findSome?_append
theorem started_cons (role : Role) (a : Act) (acts : List Act) :
    started role (a :: acts) = (a.startIn role).or (started role acts) := by
  cases h : a.startIn role <;> simp [started,h]

@[simp] theorem endOf_nil (pid : Pid) : endOf pid [] = none := rfl
@[simp] theorem endOf_append (pid : Pid) (xs ys : List Act) :
    endOf pid (xs ++ ys) = (endOf pid xs).or (endOf pid ys) := List.findSome?_append
theorem endOf_cons (pid : Pid) (a : Act) (acts : List Act) :
    endOf pid (a :: acts) = (a.endFor pid).or (endOf pid acts) := by
  cases h : a.endFor pid <;> simp [endOf,h]

@[simp] theorem vainPolls_nil (pid : Pid) : vainPolls pid [] = 0 := rfl
@[simp] theorem vainPolls_append (pid : Pid) (xs ys : List Act) :
    vainPolls pid (xs ++ ys) = vainPolls pid xs + vainPolls pid ys := List.countP_append
theorem vainPolls_cons (pid : Pid) (a : Act) (acts : List Act) :
    vainPolls pid (a :: acts) = vainPolls pid acts + if a.findsRunning pid then 1 else 0 :=
  List.countP_cons

/-- Acts that neither answer a wait nor go into it may stand in front. -/
theorem StillWaits.behind {pid : Pid} {patience : Nat} {acts before : List Act}
    (h : StillWaits pid patience acts) (he : endOf pid before = none)
    (hv : Acts.vainPolls pid before = 0) : StillWaits pid patience (before ++ acts) :=
  ⟨by simp [he,h.unanswered],by simp [hv,h.vainPolls]⟩

@[simp] theorem sawCancelled_nil : sawCancelled [] = false := rfl
@[simp] theorem sawCancelled_append (xs ys : List Act) :
    sawCancelled (xs ++ ys) = (sawCancelled xs || sawCancelled ys) := List.any_append
@[simp] theorem sawCancelled_cons (a : Act) (acts : List Act) :
    sawCancelled (a :: acts) = (a.seesCancelled || sawCancelled acts) := List.any_cons

@[simp] theorem milestones_nil : milestones [] = [] := rfl
@[simp] theorem milestones_append (xs ys : List Act) :
    milestones (xs ++ ys) = milestones xs ++ milestones ys := List.filter_append ..
theorem milestones_cons (a : Act) (acts : List Act) :
    milestones (a :: acts) = if a.isMilestone then a :: milestones acts else milestones acts :=
  List.filter_cons ..

/-- A start is a milestone, so that the milestones tell how the processes were started. -/
theorem started_milestones (role : Role) (acts : List Act) :
    started role (milestones acts) = started role acts := by
  induction acts with
  | nil => rfl
  | cons a acts ih =>
    rw [milestones_cons,started_cons]
    cases a <;> simp [Act.isMilestone,Act.startIn,started_cons,ih]

theorem mem_milestones {a : Act} {acts : List Act} :
    a ∈ milestones acts ↔ a ∈ acts ∧ a.isMilestone = true := List.mem_filter

theorem started_eq_none {acts : List Act} (h : milestones acts = []) (role : Role) :
    started role acts = none := by rw [← started_milestones,h,started_nil]

theorem spawned_notMem {acts : List Act} (h : milestones acts = []) (role : Role)
    (cl : CommandLine) (answer : Except IoError Pid) : .spawned role cl answer ∉ acts := by
  intro hspawn
  have hmem : .spawned role cl answer ∈ milestones acts := mem_milestones.mpr ⟨hspawn,rfl⟩
  simp [h] at hmem

/-- No shutdown begins between the milestones. -/
theorem beginsShutdown_of_milestones {acts : List Act}
    (h : ∀ a ∈ milestones acts, a.beginsShutdown = false) :
    ∀ a ∈ acts, a.beginsShutdown = false := by
  intro a ha
  cases a with
  | shutdownBegun c => exact h _ (mem_milestones.mpr ⟨ha,rfl⟩)
  | _ => rfl

theorem sawCancelled_iff {acts : List Act} : sawCancelled acts = true ↔ .looked true ∈ acts := by
  rw [sawCancelled,List.any_eq_true]
  constructor
  · rintro ⟨a,ha,hs⟩
    cases a <;> simp_all [Act.seesCancelled]
  · exact fun h => ⟨_,h,rfl⟩

/-- The test-runner was started and ended by itself, before the run was seen to be cancelled. -/
def RunnerExited (acts : List Act) (status : WaitStatus) : Prop :=
  ∃ pid, started .testRunner acts = some (.ok pid) ∧ endOf pid acts = some (.ok status) ∧
    .looked true ∉ acts

/-- The test-runner was killed and reaped, when the run was seen to be cancelled. -/
def RunnerKilled (acts : List Act) : Prop :=
  ∃ pid status, started .testRunner acts = some (.ok pid) ∧ endOf pid acts = some (.ok status) ∧
    .looked true ∈ acts ∧ .signaled pid .kill (.ok ()) ∈ acts

/-- The test-runner was started, but it could not be waited for or not be killed. -/
def RunnerLost (acts : List Act) (e : IoError) : Prop :=
  ∃ pid, started .testRunner acts = some (.ok pid) ∧ endOf pid acts = some (.error e)

section testEnd

variable {acts : List Act}

theorem testEnd_eq_notStarted {e : IoError} :
    testEnd acts = some (.notStarted e) ↔ started .testRunner acts = some (.error e) := by
  rcases hs : started .testRunner acts with _ | (e | pid)
  · simp [testEnd,hs]
  · simp [testEnd,hs]
  · rcases hw : waitedFor pid acts with _ | (e | w) <;> simp [testEnd,hs,hw,endOfWait]

theorem testEnd_eq_notAwaited {e : IoError} :
    testEnd acts = some (.notAwaited e) ↔ RunnerLost acts e := by
  rcases hs : started .testRunner acts with _ | (e | pid)
  · simp [testEnd,RunnerLost,hs]
  · simp [testEnd,RunnerLost,hs]
  · rcases he : endOf pid acts with _ | (e | status) <;>
      simp [testEnd,RunnerLost,hs,waitedFor,he,endOfWait]

theorem testEnd_eq_exited {status : WaitStatus} :
    testEnd acts = some (.ended (.exited status)) ↔ RunnerExited acts status := by
  rw [RunnerExited,← sawCancelled_iff]
  rcases hs : started .testRunner acts with _ | (e | pid)
  · simp [testEnd,hs]
  · simp [testEnd,hs]
  · rcases he : endOf pid acts with _ | (e | w) <;> rcases hc : sawCancelled acts <;>
      simp [testEnd,hs,waitedFor,he,endOfWait,hc]

/-- That the test-runner was killed does not follow from the answers it is told by. -/
theorem testEnd_eq_cancelled :
    testEnd acts = some (.ended .cancelled) ↔
      ∃ pid status, started .testRunner acts = some (.ok pid) ∧
        endOf pid acts = some (.ok status) ∧ .looked true ∈ acts := by
  rw [← sawCancelled_iff]
  rcases hs : started .testRunner acts with _ | (e | pid)
  · simp [testEnd,hs]
  · simp [testEnd,hs]
  · rcases he : endOf pid acts with _ | (e | w) <;> rcases hc : sawCancelled acts <;>
      simp [testEnd,hs,waitedFor,he,endOfWait,hc]

end testEnd

end Acts

open Acts

section notices

variable {acts : List Act} (h : ∀ a ∈ acts, a.isNotice = true)
include h

theorem milestones_of_isNotice : milestones acts = [] := by
  refine List.filter_eq_nil_iff.mpr fun a ha => ?_
  have := h a ha
  cases a <;> simp_all [Act.isNotice,Act.isMilestone]

theorem endOf_of_isNotice (pid : Pid) : endOf pid acts = none := by
  refine List.findSome?_eq_none_iff.mpr fun a ha => ?_
  have := h a ha
  cases a <;> simp_all [Act.isNotice,Act.endFor]

theorem vainPolls_of_isNotice (pid : Pid) : vainPolls pid acts = 0 := by
  refine List.countP_eq_zero.mpr fun a ha => ?_
  have := h a ha
  cases a <;> simp_all [Act.isNotice,Act.findsRunning]

theorem sawCancelled_of_isNotice : sawCancelled acts = false := by
  refine List.any_eq_false.mpr fun a ha => ?_
  have := h a ha
  cases a <;> simp_all [Act.isNotice,Act.seesCancelled]

end notices

theorem milestones_of_isCare {acts : List Act} (h : ∀ a ∈ acts, a.isCare = true) :
    milestones acts = [] := by
  refine List.filter_eq_nil_iff.mpr fun a ha => ?_
  have := h a ha
  cases a <;> simp_all [Act.isCare,Act.isMilestone]

namespace Harness

variable {σ : Type} (H : Harness σ) (config : PassConfig) (state : PassState) (n : Notice)

theorem isNotice_of_mem_noticeActs {a : Act} (h : a ∈ H.noticeActs n) : a.isNotice = true := by
  rcases mem_noticeActs h with rfl | ⟨s,t,rfl⟩ <;> rfl

@[simp] theorem milestones_noticeActs : milestones (H.noticeActs n) = [] :=
  milestones_of_isNotice fun _ => H.isNotice_of_mem_noticeActs n

@[simp] theorem endOf_noticeActs (pid : Pid) : endOf pid (H.noticeActs n) = none :=
  endOf_of_isNotice (fun _ => H.isNotice_of_mem_noticeActs n) pid

@[simp] theorem vainPolls_noticeActs (pid : Pid) : vainPolls pid (H.noticeActs n) = 0 :=
  vainPolls_of_isNotice (fun _ => H.isNotice_of_mem_noticeActs n) pid

@[simp] theorem sawCancelled_noticeActs : sawCancelled (H.noticeActs n) = false :=
  sawCancelled_of_isNotice fun _ => H.isNotice_of_mem_noticeActs n

@[simp] theorem milestones_enterActs : milestones (H.enterActs config state) = [] :=
  H.milestones_noticeActs _

@[simp] theorem endOf_enterActs (pid : Pid) : endOf pid (H.enterActs config state) = none :=
  H.endOf_noticeActs _ pid

@[simp] theorem vainPolls_enterActs (pid : Pid) : vainPolls pid (H.enterActs config state) = 0 :=
  H.vainPolls_noticeActs _ pid

@[simp] theorem sawCancelled_enterActs : sawCancelled (H.enterActs config state) = false :=
  H.sawCancelled_noticeActs _

@[simp] theorem started_enterActs (role : Role) :
    started role (H.enterActs config state) = none :=
  started_eq_none (H.milestones_enterActs config state) role

end Harness

namespace Child

variable {pid : Pid} {n : Nat} {acts : List Act} {answer : Option (Except IoError WaitStatus)}

theorem Awaited.isCare (h : Awaited pid n acts answer) : ∀ a ∈ acts, a.isCare = true := by
  induction h <;> simp_all [Act.isCare]

theorem Awaited.sawCancelled (h : Awaited pid n acts answer) : sawCancelled acts = false := by
  induction h <;> simp_all [Act.seesCancelled]

theorem Awaited.endOf (h : Awaited pid n acts answer) : endOf pid acts = answer := by
  induction h <;> simp_all [endOf_cons,Act.endFor]

theorem Killed.isCare (h : Killed pid n acts answer) : ∀ a ∈ acts, a.isCare = true := by
  cases h with
  | refused e again => simp [Act.isCare]
  | sent h => simpa [Act.isCare] using h.isCare

theorem Killed.endOf (h : Killed pid n acts answer) : Acts.endOf pid acts = answer := by
  cases h with
  | refused e again => simp [endOf_cons,Act.endFor]
  | sent h => simp [endOf_cons,Act.endFor,h.endOf]

theorem Watched.isCare {answer : Option (Except IoError Waited)} (h : Watched pid n acts answer) :
    ∀ a ∈ acts, a.isCare = true := by
  induction h with
  | pending => simp
  | failed n e answer => simp [Act.isCare]
  | ended n status => simp [Act.isCare]
  | again h ih => simpa [Act.isCare] using ih
  | killing h => simpa [Act.isCare] using h.isCare
  | notKilled h => simpa [Act.isCare] using h.isCare
  | killed h => simpa [Act.isCare] using h.isCare

theorem Awaited.stillWaits (h : Awaited pid n acts none) : StillWaits pid n acts := by
  refine ⟨h.endOf,?_⟩
  generalize ha : (none : Option (Except IoError WaitStatus)) = answer at h
  induction h with
  | pending => rfl
  | failed n e => simp at ha
  | ended n status => simp at ha
  | again h ih => simp [vainPolls_cons,Act.findsRunning,ih ha]

theorem Watched.waitedFor {answer : Option (Except IoError Waited)}
    (h : Watched pid n acts answer) :
    waitedFor pid acts = answer := by
  induction h with
  | pending => rfl
  | failed n e answer => simp [Acts.waitedFor,endOf_cons,Act.endFor]
  | ended n status => simp [Acts.waitedFor,endOf_cons,Act.endFor,Act.seesCancelled]
  | again h ih =>
    simpa [Acts.waitedFor,endOf_cons,Act.endFor,Act.seesCancelled] using ih
  | killing h => simp [Acts.waitedFor,endOf_cons,Act.endFor,h.endOf]
  | notKilled h => simp [Acts.waitedFor,endOf_cons,Act.endFor,h.endOf]
  | killed h => simp [Acts.waitedFor,endOf_cons,Act.endFor,Act.seesCancelled,h.endOf]

theorem Watched.stillWaits (h : Watched pid n acts none) : StillWaits pid n acts := by
  refine ⟨by simpa [Acts.waitedFor] using h.waitedFor,?_⟩
  generalize ha : (none : Option (Except IoError Waited)) = answer at h
  induction h with
  | again h ih => simp [vainPolls_cons,Act.findsRunning,ih ha]
  | killing h =>
    cases h with
    | sent h => simp [vainPolls_cons,Act.findsRunning,h.stillWaits.vainPolls]
  | pending => rfl
  | _ => simp at ha

theorem Terminated.isCare (h : Terminated pid n acts answer) : ∀ a ∈ acts, a.isCare = true := by
  cases h with
  | failed e => simp [Act.isCare]
  | ended status => simp [Act.isCare]
  | refused e => simp [Act.isCare]
  | asked h => simpa [Act.isCare] using h.isCare

theorem Terminated.sawCancelled (h : Terminated pid n acts answer) :
    Acts.sawCancelled acts = false := by
  cases h with
  | asked h => simp [Act.seesCancelled,h.sawCancelled]
  | _ => simp [Act.seesCancelled]

theorem Terminated.endOf (h : Terminated pid n acts answer) : Acts.endOf pid acts = answer := by
  cases h with
  | asked h => simp [endOf_cons,Act.endFor,h.endOf]
  | _ => simp [endOf_cons,Act.endFor]

theorem ShutDown.stillWaits (h : ShutDown pid n acts none) : StillWaits pid (n + 1) acts := by
  cases h with
  | pending h =>
    cases h with
    | asked h =>
      have hw := h.stillWaits
      exact ⟨by simp [endOf_cons,Act.endFor,hw.unanswered],
        by simp [vainPolls_cons,Act.findsRunning,hw.vainPolls]⟩

theorem ShutDown.sawCancelled (h : ShutDown pid n acts answer) :
    Acts.sawCancelled acts = false := by
  cases h with
  | pending h => simp [Act.seesCancelled,h.sawCancelled]
  | failed answer h => simp [Act.seesCancelled,h.sawCancelled]
  | ended h => simp [Act.seesCancelled,h.sawCancelled]

theorem ShutDown.endOf (h : ShutDown pid n acts answer) : Acts.endOf pid acts = answer := by
  cases h with
  | pending h => simp [endOf_cons,Act.endFor,h.endOf]
  | failed answer h => simp [endOf_cons,Act.endFor,h.endOf]
  | ended h => simp [endOf_cons,Act.endFor,h.endOf]

theorem ShutDown.begins (h : ShutDown pid n acts answer) :
    ∃ rest, acts = .shutdownBegun (unreaped pid) :: rest ∧
      Acts.milestones rest = (answer.map fun s => Act.shutdownEnded (unreaped pid) s).toList := by
  cases h with
  | pending h => exact ⟨_,rfl,by simp [milestones_of_isCare h.isCare]⟩
  | failed answer h =>
    exact ⟨_,rfl,by simp [milestones_cons,Act.isMilestone,milestones_of_isCare h.isCare]⟩
  | ended h =>
    exact ⟨_,rfl,by simp [milestones_cons,Act.isMilestone,milestones_of_isCare h.isCare]⟩

theorem ShutDown.milestones (h : ShutDown pid n acts answer) :
    Acts.milestones acts = .shutdownBegun (unreaped pid) ::
      (answer.map fun s => Act.shutdownEnded (unreaped pid) s).toList := by
  obtain ⟨rest,rfl,hrest⟩ := h.begins
  rw [milestones_cons,hrest]
  rfl

theorem ShutDown.shutdownActs (h : ShutDown pid n acts answer) {before : List Act}
    (after : List Act)
    (hb : ∀ a ∈ before, a.beginsShutdown = false) :
    Acts.shutdownActs (before ++ (acts ++ after)) = acts ++ after := by
  rw [Acts.shutdownActs,List.dropWhile_append_of_pos (by simpa using hb)]
  obtain ⟨rest,rfl,-⟩ := h.begins
  simp [Act.beginsShutdown]

end Child

namespace Harness

variable {σ : Type} {H : Harness σ} {config : PassConfig} {acts : List Act}

theorem TestCourse.milestones {test : Option TestEnd} (h : H.TestCourse config acts test) :
    ∃ answer, Acts.milestones acts =
      [.spawned .testRunner config.testRunnerCommandLine answer] := by
  cases h with
  | notStarted e => exact ⟨.error e,by simp [milestones_cons,Act.isMilestone]⟩
  | @pending pid _ h =>
    exact ⟨.ok pid,by simp [milestones_cons,Act.isMilestone,milestones_of_isCare h.isCare]⟩
  | @notAwaited pid _ _ h =>
    exact ⟨.ok pid,by simp [milestones_cons,Act.isMilestone,milestones_of_isCare h.isCare]⟩
  | @ended pid _ _ h =>
    exact ⟨.ok pid,by simp [milestones_cons,Act.isMilestone,milestones_of_isCare h.isCare]⟩

end Harness
end MatrixHarness
