import MatrixHarness.Proofs.Matrix.Passes

/-! # One server at a time

Over a whole matrix at most one server is not reaped.  This rests on the milestones of the passes
alone: a pass that is followed by another has shut its server down, and was told its status. -/
namespace MatrixHarness

/-- Keeps account of the servers that are started and not reaped.  A server counts until its
shutdown has come back with its status, which is later than the poll that reaps it. -/
def Act.reckon (live : List Pid) : Act → List Pid
  | .spawned .server _ (.ok pid) => pid :: live
  | .shutdownEnded (.unreaped pid) (.ok _) => live.erase pid
  | _ => live

def Act.startsServer : Act → Bool
  | .spawned .server _ (.ok _) => true
  | _ => false

open Acts

namespace Acts

def unreapedServers (acts : List Act) : List Pid := acts.foldl Act.reckon []

theorem foldl_reckon_milestones (acts : List Act) (live : List Pid) :
    (milestones acts).foldl Act.reckon live = acts.foldl Act.reckon live := by
  induction acts generalizing live with
  | nil => rfl
  | cons a acts ih =>
    rw [milestones_cons]
    cases a <;> simp [Act.isMilestone,Act.reckon,ih]

theorem unreapedServers_milestones (acts : List Act) :
    unreapedServers (milestones acts) = unreapedServers acts := foldl_reckon_milestones acts []

theorem foldl_reckon_length (acts : List Act) (live : List Pid) :
    (acts.foldl Act.reckon live).length ≤ live.length + acts.countP Act.startsServer := by
  induction acts generalizing live with
  | nil => simp
  | cons a acts ih =>
    have hstep : (a.reckon live).length ≤ live.length + if a.startsServer then 1 else 0 := by
      unfold Act.reckon Act.startsServer
      split <;> simp [List.length_erase_le]
    have hrest := ih (a.reckon live)
    rw [List.foldl_cons,List.countP_cons]
    omega

/-- Acts behind which no server is left leave the account to those that follow. -/
theorem unreapedServers_append {xs : List Act} (h : unreapedServers xs = []) (ys : List Act) :
    unreapedServers (xs ++ ys) = unreapedServers ys := by
  rw [unreapedServers,List.foldl_append,← unreapedServers,h,unreapedServers]

theorem unreapedServers_flatMap {ps : List PassRun}
    (h : ∀ p ∈ ps, unreapedServers p.acts = []) :
    unreapedServers (ps.flatMap PassRun.acts) = [] := by
  induction ps with
  | nil => rfl
  | cons p ps ih =>
    rw [List.flatMap_cons,unreapedServers_append (h p (by simp))]
    exact ih fun q hq => h q (by simp [hq])

end Acts

def Reaped (config : PassConfig) (acts : List Act) : Prop :=
  ∃ pid test status, milestones acts =
    [.spawned .server config.serverCommandLine (.ok pid),
      .spawned .testRunner config.testRunnerCommandLine test,.shutdownBegun (.unreaped pid),
      .shutdownEnded (.unreaped pid) (.ok status)]

theorem Reaped.unreapedServers {config : PassConfig} {acts : List Act} (h : Reaped config acts) :
    Acts.unreapedServers acts = [] := by
  obtain ⟨pid,test,status,h⟩ := h
  rw [← unreapedServers_milestones,h]
  simp [Acts.unreapedServers,Act.reckon]

section life

variable {config : PassConfig} {patience : Nat} {acts before after : List Act} {finished : Bool}
  (h : ServerLife config patience acts finished)
include h

theorem ServerLife.startsServer_le : (milestones acts).countP Act.startsServer ≤ 1 := by
  cases h with
  | unfinished h => cases h <;> simp [*,List.countP_cons,Act.startsServer]
  | _ => simp [*,List.countP_cons,Act.startsServer]

/-- In one life of a server at most one is started, so that no more can be left at any moment. -/
theorem ServerLife.unreapedServers_length (hb : before <+: milestones acts) :
    (unreapedServers before).length ≤ 1 := by
  have hcount : before.countP Act.startsServer ≤ (milestones acts).countP Act.startsServer :=
    hb.sublist.countP_le
  have hlength := foldl_reckon_length before []
  simp only [List.length_nil,Nat.zero_add] at hlength
  exact Nat.le_trans hlength (Nat.le_trans hcount h.startsServer_le)

/-- A shutdown that failed is the last milestone of its pass. -/
theorem ServerLife.failed_shutdown_last {c : Child} {e : IoError}
    (hs : milestones acts = before ++ .shutdownEnded c (.error e) :: after) : after = [] := by
  cases h with
  | unfinished h =>
    cases h <;> rcases before with _ | ⟨_,_ | ⟨_,_ | ⟨_,before⟩⟩⟩ <;> simp_all
  | _ => rcases before with _ | ⟨_,_ | ⟨_,_ | ⟨_,_ | ⟨_,before⟩⟩⟩⟩ <;> simp_all

end life

namespace Harness

variable {σ : Type} {H : Harness σ} {config : PassConfig} {acts : List Act}

/-- A pass succeeds only if the shutdown of its server does. -/
theorem PassCourse.reaped {finish : PassEnd} {duration : Duration} {result : PassResult}
    (h : H.PassCourse config acts (some finish))
    (hr : finish.result H.locale config duration = .ok result) : Reaped config acts := by
  obtain ⟨status,stopped,rfl,-⟩ := PassEnd.result_ok.mp ⟨result,hr⟩
  cases h with
  | @served pid _ _ _ _ ht hs =>
    obtain ⟨test,hm⟩ := ht.milestones
    exact ⟨pid,test,stopped,by simp [hm,hs.milestones]⟩

theorem PassCourse.test_over {finish : Option PassEnd} (h : H.PassCourse config acts finish)
    {before after : List Act} {c : Child} (hb : acts = before ++ .shutdownBegun c :: after) :
    ∃ test, testEnd before = some test := by
  have hmem : .shutdownBegun c ∈ acts := by simp [hb]
  obtain ⟨pid,test,t,stop,answer,rest,ht,hs,hrest,-,rfl⟩ := h.with_shutdown hmem rfl
  exact ⟨t,testEnd_at_shutdown ht hs rest hrest hb⟩

theorem PassCourse.shutdown_answer {finish : Option PassEnd} (h : H.PassCourse config acts finish)
    {c : Child} {answer : Except IoError WaitStatus} (hm : .shutdownEnded c answer ∈ acts) :
    stopAnswer acts = some answer := by
  obtain ⟨pid,test,t,stop,given,rest,ht,hs,hrest,hend,rfl⟩ := h.with_shutdown hm rfl
  obtain ⟨runner,htest⟩ := ht.milestones
  have hgiven : given = some answer := by
    have hmem := mem_milestones.mpr ⟨hm,rfl⟩
    rcases given with _ | given <;> simp [htest,hs.milestones,hrest] at hmem
    rw [hmem.2]
  rw [stopAnswer_eq ht hs rest (hend pid),hgiven]

end Harness

namespace PassRun

variable {σ : Type} {H : Harness σ} {r next : Run σ} {p : PassRun}

theorem Runs.serverLife (h : p.Runs H r next) :
    ServerLife p.config H.patience p.acts p.result.isSome := by
  obtain ⟨finish,duration,hresult,hcourse,-⟩ := h.course
  simpa [hresult] using hcourse.serverLife

theorem Runs.reaped (h : p.Runs H r next) (hr : p.Succeeded) : Reaped p.config p.acts := by
  obtain ⟨result,hr⟩ := hr
  obtain ⟨finish,duration,he,hcourse⟩ := h.finished hr
  exact hcourse.reaped he

end PassRun

namespace Harness

variable {σ : Type} {H : Harness σ} {configs : List PassConfig} {r last : Run σ} {ps : List PassRun}

/-- At most one server is left at any moment of a matrix: a pass that another one follows leaves
none behind. -/
theorem MatrixCourse.unreapedServers_length (h : H.MatrixCourse configs r ps last)
    {acts : List Act} (ha : acts <+: ps.flatMap PassRun.acts) :
    (unreapedServers acts).length ≤ 1 := by
  -- one pass alone
  have hpass {r next : Run σ} {p : PassRun} {acts : List Act} (hp : p.Runs H r next)
      (ha : acts <+: p.acts) : (unreapedServers acts).length ≤ 1 := by
    rw [← unreapedServers_milestones]
    exact hp.serverLife.unreapedServers_length (ha.filter Act.isMilestone)
  induction h generalizing acts with
  | done r => simp_all [unreapedServers]
  | halted configs hp hr => exact hpass hp (by simpa using ha)
  | @further p _ _ _ _ ps hp hr hps ih =>
    rw [List.flatMap_cons] at ha
    rcases List.prefix_or_prefix_of_prefix ha (List.prefix_append p.acts _) with hle | ⟨more,rfl⟩
    · exact hpass hp hle
    · rw [unreapedServers_append (hp.reaped hr).unreapedServers]
      exact ih ((List.prefix_append_right_inj p.acts).mp ha)

theorem MatrixCourse.reaped {before after : List PassRun} {p : PassRun}
    (h : H.MatrixCourse configs r (before ++ p :: after) last) :
    ∀ q ∈ before, Reaped q.config q.acts := by
  intro q hq
  obtain ⟨s,next,hruns⟩ := h.course q (by simp [hq])
  exact hruns.reaped (h.split.1 q hq)

theorem MatrixCourse.failed_shutdown_last (h : H.MatrixCourse configs r ps last)
    {before after : List Act} {c : Child} {e : IoError}
    (hs : milestones (ps.flatMap PassRun.acts) = before ++ .shutdownEnded c (.error e) :: after) :
    after = [] := by
  induction h generalizing before with
  | done r => simp at hs
  | halted configs hp hr => exact hp.serverLife.failed_shutdown_last (by simpa using hs)
  | further hp hr hps ih =>
    obtain ⟨pid,test,status,hm⟩ := hp.reaped hr
    rw [List.flatMap_cons,milestones_append,hm] at hs
    -- the failed shutdown is none of those of this pass
    rcases before with _ | ⟨_,_ | ⟨_,_ | ⟨_,_ | ⟨_,before⟩⟩⟩⟩ <;> simp at hs
    exact ih hs.2.2.2.2

/-- Over a whole matrix, whatever the host answers and whenever the run is cancelled: at most one
server is not reaped at any moment; in each pass a test-runner is started only between the start of
the server and its shutdown, of which there is exactly one, begun only when the test is over and
ended before the pass is, and a pass that is not over has used up its patience on the child that it
waits for; a pass begins only when the servers of all earlier ones are shut down and reaped; and
behind a shutdown that failed no process is started any more. -/
theorem runAll_oneServer (H : Harness σ) (configs : List PassConfig) (r : Run σ) :
    let ps := H.passes configs r
    let acts := ps.flatMap PassRun.acts
    (H.runAll configs r).2.history = r.history ++ acts ∧ ps.map PassRun.config <+: configs ∧
    (∀ moment, moment <+: acts → (unreapedServers moment).length ≤ 1) ∧
    (∀ p ∈ ps, ServerLife p.config H.patience p.acts p.result.isSome ∧
      (∀ before c after, p.acts = before ++ .shutdownBegun c :: after →
        ∃ test, testEnd before = some test) ∧
      ∀ c answer, .shutdownEnded c answer ∈ p.acts → stopAnswer p.acts = some answer) ∧
    (∀ before p after, ps = before ++ p :: after →
      unreapedServers (before.flatMap PassRun.acts) = [] ∧
      ∀ q ∈ before, ∃ pid status, .spawned .server q.config.serverCommandLine (.ok pid) ∈ q.acts ∧
        .shutdownEnded (.unreaped pid) (.ok status) ∈ q.acts) ∧
    ∀ before c e after, acts = before ++ .shutdownEnded c (.error e) :: after →
      ∀ role cl answer, .spawned role cl answer ∉ after := by
  intro ps acts
  have hmatrix := (H.runAll_course configs r).2
  refine ⟨hmatrix.continues.history,hmatrix.configs_prefix,
    fun moment hm => hmatrix.unreapedServers_length hm,?_,?_,?_⟩
  · intro p hp
    obtain ⟨s,next,hruns⟩ := hmatrix.course p hp
    obtain ⟨finish,duration,-,hcourse,-⟩ := hruns.course
    exact ⟨hruns.serverLife,fun before c after hb => hcourse.test_over hb,
      fun c answer hm => hcourse.shutdown_answer hm⟩
  · intro before p after hps
    have hsplit : H.passes configs r = before ++ p :: after := hps
    have hreaped := MatrixCourse.reaped (hsplit ▸ hmatrix)
    refine ⟨unreapedServers_flatMap fun q hq => (hreaped q hq).unreapedServers,?_⟩
    intro q hq
    obtain ⟨pid,test,status,hm⟩ := hreaped q hq
    exact ⟨pid,status,(mem_milestones.mp (by simp [hm])).1,(mem_milestones.mp (by simp [hm])).1⟩
  · intro before c e after ha role cl answer hspawn
    have hm : milestones acts =
        milestones before ++ .shutdownEnded c (.error e) :: milestones after := by
      rw [ha,milestones_append,milestones_cons]
      rfl
    have hlast : milestones after = [] := hmatrix.failed_shutdown_last hm
    exact spawned_notMem hlast role cl answer hspawn

end Harness
end MatrixHarness
