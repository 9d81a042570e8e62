import Mathlib.Data.List.Forall2
import MatrixHarness.Proofs.Matrix.OneServer
import MatrixHarness.Proofs.Pass.Completed

/-! # Launches of a matrix

Which processes a matrix asks for, in which order and by which words, against its plan and against
its result.  A pass asks for a server and then for a test-runner.  A matrix asks for what its plan
says pass by pass, leaves nothing out before the last process that it asks for, and succeeds just if
it asked for all of them and each went well. -/
namespace MatrixHarness

structure Launch where
  role : Role
  commandLine : CommandLine
  deriving DecidableEq

def Act.launch? : Act → Option Launch
  | .spawned role cl _ => some ⟨role,cl⟩
  | _ => none

/-- The processes that some acts ask for, whatever the answers. -/
def Acts.launches (acts : List Act) : List Launch := acts.filterMap Act.launch?

namespace MatrixSettings

def serverWords (s : MatrixSettings) : CommandLine :=
  [s.server,RawText.ofString ("--smp=" ++ toString s.smp.toNat)]

/-- The words by which the test-runner of a variant is started. -/
def runnerWords (s : MatrixSettings) (v : Variant) : CommandLine :=
  [s.testRunner] ++ v.arguments.map RawText.ofString ++
    if s.fast then [RawText.ofString "--fast"] else []

def launches (s : MatrixSettings) (v : Variant) : List Launch :=
  [⟨.server,s.serverWords⟩,⟨.testRunner,s.runnerWords v⟩]

end MatrixSettings

def PassConfig.launches (c : PassConfig) : List Launch :=
  [⟨.server,c.serverCommandLine⟩,⟨.testRunner,c.testRunnerCommandLine⟩]

namespace Plan

theorem launches_configFor (s : MatrixSettings) (v : Variant) :
    (configFor s v).launches = s.launches v := rfl

theorem flatMap_launches_configFor (s : MatrixSettings) (vs : List Variant) :
    (vs.map (configFor s)).flatMap PassConfig.launches = vs.flatMap s.launches := by
  rw [List.flatMap_map]
  rfl

end Plan

open Acts

namespace Acts

@[simp] theorem launches_append (xs ys : List Act) :
    launches (xs ++ ys) = launches xs ++ launches ys := List.filterMap_append

/-- The start of a process is a milestone, so that the milestones tell what was asked for. -/
theorem launches_milestones (acts : List Act) : launches (milestones acts) = launches acts := by
  rw [launches,milestones,List.filterMap_filter]
  refine List.filterMap_congr fun a _ => ?_
  cases a <;> rfl

end Acts

theorem ServerLife.launches {config : PassConfig} {patience : Nat} {acts : List Act}
    {finished : Bool} (h : ServerLife config patience acts finished) :
    Acts.launches acts <+: config.launches := by
  rw [← launches_milestones]
  cases h with
  | unfinished h => cases h <;> simp [*,Acts.launches,Act.launch?,PassConfig.launches]
  | _ => simp [*,Acts.launches,Act.launch?,PassConfig.launches]

theorem Reaped.launches {config : PassConfig} {acts : List Act} (h : Reaped config acts) :
    Acts.launches acts = config.launches := by
  obtain ⟨pid,test,status,h⟩ := h
  rw [← launches_milestones,h]
  rfl

namespace PassRun

variable {σ : Type} {H : Harness σ} {r next : Run σ} {p : PassRun}

theorem Runs.succeeded_iff (h : p.Runs H r next) : p.Succeeded ↔ WentWell p.acts := by
  obtain ⟨finish,duration,hresult,hcourse,-⟩ := h.course
  rw [hcourse.wentWell_iff,Succeeded,hresult]
  rcases finish with _ | finish
  · simp
  · simpa using PassEnd.result_ok

theorem Runs.completed (h : p.Runs H r next) (hp : p.Succeeded) :
    Completed p.config.serverCommandLine p.config.testRunnerCommandLine p.acts := by
  obtain ⟨result,hr⟩ := hp
  obtain ⟨finish,duration,he,hcourse⟩ := h.finished hr
  exact hcourse.completed he

theorem Runs.spawned_ok (h : p.Runs H r next) (hp : p.Succeeded) {role : Role} {cl : CommandLine}
    {answer : Except IoError Pid} (hs : .spawned role cl answer ∈ p.acts) :
    ∃ pid, answer = .ok pid := by
  obtain ⟨server,runner,exit,stopped,hm,-⟩ := h.completed hp
  have hmem : .spawned role cl answer ∈ milestones p.acts := mem_milestones.mpr ⟨hs,rfl⟩
  simp only [hm,List.mem_cons,Act.spawned.injEq,reduceCtorEq,List.not_mem_nil,or_false] at hmem
  rcases hmem with ⟨-,-,rfl⟩ | ⟨-,-,rfl⟩
  · exact ⟨server,rfl⟩
  · exact ⟨runner,rfl⟩

theorem Runs.result_none_iff (h : p.Runs H r next) :
    p.result = none ↔ ∃ test, Unfinished p.config H.patience p.acts test := by
  constructor
  · intro hp
    obtain ⟨finish,duration,hresult,hcourse,-⟩ := h.course
    obtain rfl : finish = none := Option.map_eq_none_iff.mp (hresult.symm.trans hp)
    exact hcourse.unfinished
  · rintro ⟨test,hu⟩
    have hlife := h.serverLife
    rcases hp : p.result with _ | result
    · rfl
    · rw [hp] at hlife
      exact absurd hlife hu.not_over

theorem Runs.reported (h : p.Runs H r next) {result : PassResult}
    (hr : p.result = some (.ok result)) :
    (result.variant,result.commandLine) =
      (p.config.variant.name,p.config.testRunnerCommandLine) := by
  obtain ⟨finish,duration,he,-⟩ := h.finished hr
  obtain ⟨status,stopped,rfl,hs⟩ := PassEnd.result_ok.mp ⟨result,he⟩
  simp only [PassEnd.result,TestEnd.outcome,hs,if_true,Pass.settle,Except.ok.injEq] at he
  rw [← he]

end PassRun

namespace Harness

variable {σ : Type} {H : Harness σ} {configs : List PassConfig} {r last : Run σ} {ps : List PassRun}

/-- What the result of a matrix tells of its passes: their variants and words, in their order. -/
theorem reports_of_conclusion {ps : List PassRun} {results : List PassResult}
    (hruns : ∀ p ∈ ps, ∃ s next, p.Runs H s next) (h : conclusion ps = some (.ok results)) :
    results.map (fun result => (result.variant,result.commandLine)) =
      ps.map fun p => (p.config.variant.name,p.config.testRunnerCommandLine) := by
  induction ps generalizing results with
  | nil => simp_all [conclusion]
  | cons p ps ih =>
    obtain ⟨result,more,hr,hc,rfl⟩ := conclusion_cons_ok.mp h
    obtain ⟨s,next,hp⟩ := hruns p (by simp)
    rw [List.map_cons,List.map_cons,hp.reported hr,ih (fun q hq => hruns q (by simp [hq])) hc]

theorem conclusion_of_succeeded {ps : List PassRun} (h : ∀ p ∈ ps, p.Succeeded) :
    ∃ results, conclusion ps = some (.ok results) := by
  induction ps with
  | nil => exact ⟨[],rfl⟩
  | cons p ps ih =>
    obtain ⟨result,hr⟩ := h p (by simp)
    obtain ⟨results,hc⟩ := ih fun q hq => h q (by simp [hq])
    exact ⟨result :: results,conclusion_cons_ok.mpr ⟨result,results,hr,hc,rfl⟩⟩

namespace MatrixCourse

theorem configs_eq (h : H.MatrixCourse configs r ps last) (hs : ∀ p ∈ ps, p.Succeeded) :
    ps.map PassRun.config = configs := by
  induction h with
  | done r => rfl
  | halted configs hp hr => exact absurd (hs _ (by simp)) hr
  | further hp hr hps ih => rw [List.map_cons,ih fun q hq => hs q (by simp [hq])]

/-- A matrix asks for processes in the order of its plan, and leaves none out before the last. -/
theorem launches_prefix (h : H.MatrixCourse configs r ps last) :
    launches (ps.flatMap PassRun.acts) <+: configs.flatMap PassConfig.launches := by
  induction h with
  | done r => exact List.prefix_rfl
  | halted configs hp hr =>
    simpa using hp.serverLife.launches.trans (List.prefix_append _ _)
  | further hp hr hps ih =>
    rw [List.flatMap_cons,List.flatMap_cons,launches_append,(hp.reaped hr).launches]
    exact (List.prefix_append_right_inj _).mpr ih

end MatrixCourse

theorem launches_of_reaped {ps : List PassRun} (h : ∀ p ∈ ps, Reaped p.config p.acts) :
    launches (ps.flatMap PassRun.acts) = (ps.map PassRun.config).flatMap PassConfig.launches := by
  induction ps with
  | nil => rfl
  | cons p ps ih =>
    rw [List.flatMap_cons,launches_append,(h p (by simp)).launches,
      ih fun q hq => h q (by simp [hq]),List.map_cons,List.flatMap_cons]

end Harness

/-- What is asked for in a matrix of these variants, against its result. -/
structure LaunchLaw (s : MatrixSettings) (variants : List Variant) (patience : Nat)
    (ps : List PassRun) (answer : Option (Except Trail (List PassResult))) : Prop where
  inOrder : launches (ps.flatMap PassRun.acts) <+: variants.flatMap s.launches
  ok_iff : (∃ results, answer = some (.ok results)) ↔
    launches (ps.flatMap PassRun.acts) = variants.flatMap s.launches ∧
    (∀ role cl answer, .spawned role cl answer ∈ ps.flatMap PassRun.acts →
      ∃ pid, answer = .ok pid) ∧
    ∀ p ∈ ps, WentWell p.acts
  reports : ∀ results, answer = some (.ok results) →
    results.map (fun result => (result.variant,result.commandLine)) =
      variants.map fun v => (v.name,s.runnerWords v)
  /-- A pass that fails is the last, and the passes before it asked for all that they should. -/
  failed : ∀ before p after t, ps = before ++ p :: after → p.result = some (.error t) →
    after = [] ∧ answer = some (.error t) ∧
    ∃ done v rest, variants = done ++ v :: rest ∧ done.length = before.length ∧
      p.config.variant = v ∧
      launches (ps.flatMap PassRun.acts) = done.flatMap s.launches ++ launches p.acts ∧
      launches p.acts <+: s.launches v
  /-- There is no answer just while the last pass waits for a child, behind others that went
  well. -/
  pending : answer = none ↔ ∃ before p test, ps = before ++ [p] ∧
    (∀ q ∈ before, WentWell q.acts) ∧ Unfinished p.config patience p.acts test

namespace Harness

variable {σ : Type} {H : Harness σ} {r last : Run σ} {ps : List PassRun} {s : MatrixSettings}
  {variants : List Variant}

theorem MatrixCourse.of_ok (h : H.MatrixCourse (variants.map (Plan.configFor s)) r ps last)
    {results : List PassResult} (hc : conclusion ps = some (.ok results)) :
    ps.map PassRun.config = variants.map (Plan.configFor s) ∧
      ∀ p ∈ ps, p.Succeeded ∧ WentWell p.acts ∧ Reaped p.config p.acts := by
  have hall := succeeded_of_conclusion hc
  refine ⟨h.configs_eq hall,fun p hp => ?_⟩
  obtain ⟨before,next,hruns⟩ := h.course p hp
  exact ⟨hall p hp,hruns.succeeded_iff.mp (hall p hp),hruns.reaped (hall p hp)⟩

theorem MatrixCourse.completed (h : H.MatrixCourse (variants.map (Plan.configFor s)) r ps last)
    {results : List PassResult} (hc : conclusion ps = some (.ok results)) :
    List.Forall₂ (fun v acts => Completed s.serverWords (s.runnerWords v) acts) variants
      (ps.map PassRun.acts) := by
  obtain ⟨hconfigs,hall⟩ := h.of_ok hc
  have hpasses : List.Forall₂ (fun c acts => Completed c.serverCommandLine c.testRunnerCommandLine
      acts) (ps.map PassRun.config) (ps.map PassRun.acts) := by
    rw [List.forall₂_map_left_iff,List.forall₂_map_right_iff,List.forall₂_same]
    intro p hp
    obtain ⟨before,next,hruns⟩ := h.course p hp
    exact hruns.completed (hall p hp).1
  rw [hconfigs,List.forall₂_map_left_iff] at hpasses
  exact hpasses

theorem MatrixCourse.launchLaw (h : H.MatrixCourse (variants.map (Plan.configFor s)) r ps last) :
    LaunchLaw s variants H.patience ps (conclusion ps) where
  inOrder := by simpa only [Plan.flatMap_launches_configFor] using h.launches_prefix
  ok_iff := by
    constructor
    · rintro ⟨results,hc⟩
      obtain ⟨hconfigs,hall⟩ := h.of_ok hc
      refine ⟨?_,?_,fun p hp => (hall p hp).2.1⟩
      · rw [launches_of_reaped fun p hp => (hall p hp).2.2,hconfigs,Plan.flatMap_launches_configFor]
      · intro role cl answer hspawn
        obtain ⟨p,hp,hspawn⟩ := List.mem_flatMap.mp hspawn
        obtain ⟨before,next,hruns⟩ := h.course p hp
        exact hruns.spawned_ok (hall p hp).1 hspawn
    · rintro ⟨-,-,hwell⟩
      refine conclusion_of_succeeded fun p hp => ?_
      obtain ⟨before,next,hruns⟩ := h.course p hp
      exact hruns.succeeded_iff.mpr (hwell p hp)
  reports results hc := by
    have hconfigs := congrArg
      (List.map fun c : PassConfig => (c.variant.name,c.testRunnerCommandLine)) (h.of_ok hc).1
    rw [List.map_map,List.map_map] at hconfigs
    rw [reports_of_conclusion h.course hc]
    exact hconfigs
  failed before p after t hps hp := by
    subst hps
    obtain ⟨hbefore,start,next,rest,hconfigs,hruns,hafter⟩ := h.split
    have hnil : after = [] := by
      rcases hafter with ⟨⟨result,hr⟩,-⟩ | ⟨-,hnil⟩
      · simp [hp] at hr
      · exact hnil
    subst hnil
    obtain ⟨done,others,rfl,hdone,hothers⟩ := List.map_eq_append_iff.mp hconfigs
    obtain ⟨v,rest,rfl,hv,-⟩ := List.map_eq_cons_iff.mp hothers
    have hlife := hruns.serverLife.launches
    rw [← hv,Plan.launches_configFor] at hlife
    refine ⟨rfl,conclusion_error hbefore hp,done,v,rest,rfl,?_,?_,?_,hlife⟩
    · simpa using congrArg List.length hdone
    · rw [← hv]
      rfl
    · rw [List.flatMap_append,launches_append,launches_of_reaped h.reaped,← hdone,
        Plan.flatMap_launches_configFor,List.flatMap_singleton]
  pending := by
    constructor
    · intro hc
      have hne (results : List PassResult) : conclusion ps ≠ some (.ok results) := by simp [hc]
      obtain ⟨before,p,after,rfl,hb,hp⟩ := halted_of_conclusion hne
      obtain ⟨-,start,next,rest,-,hruns,⟨hok,-⟩ | ⟨-,rfl⟩⟩ := h.split
      · exact absurd hok hp
      · rw [conclusion_halted hb hp] at hc
        have hresult : p.result = none := by
          rcases hr : p.result with _ | (t | result)
          · rfl
          · simp [conclusion,hr] at hc
          · exact absurd ⟨result,hr⟩ hp
        obtain ⟨test,hu⟩ := hruns.result_none_iff.mp hresult
        refine ⟨before,p,test,rfl,fun q hq => ?_,hu⟩
        obtain ⟨s,t,hq'⟩ := h.course q (by simp [hq])
        exact hq'.succeeded_iff.mp (hb q hq)
    · rintro ⟨before,p,test,rfl,hb,hu⟩
      obtain ⟨hbefore,start,next,rest,-,hruns,-⟩ := h.split
      have hp : p.result = none := hruns.result_none_iff.mpr ⟨test,hu⟩
      rw [conclusion_halted hbefore (by simp [PassRun.Succeeded,hp])]
      simp [conclusion,hp]

/-- Plan and matrix agree on what is asked for, whatever the settings and the variants are, whatever
the host answers and whenever the run is cancelled.  There is no plan just for no variants. -/
theorem runAll_planned (H : Harness σ) (s : MatrixSettings) (variants : List Variant) (r : Run σ) :
    variants = [] ∧ Plan.make? s variants = none ∨
    variants ≠ [] ∧ ∃ configs, Plan.make? s variants = some configs ∧
      (H.runAll configs r).2.history =
        r.history ++ (H.passes configs r).flatMap PassRun.acts ∧
      LaunchLaw s variants H.patience (H.passes configs r) (H.runAll configs r).1 := by
  cases variants with
  | nil => exact .inl ⟨rfl,rfl⟩
  | cons v variants =>
    obtain ⟨hanswer,hmatrix⟩ := H.runAll_course ((v :: variants).map (Plan.configFor s)) r
    refine .inr ⟨by simp,_,rfl,hmatrix.continues.history,?_⟩
    rw [hanswer]
    exact hmatrix.launchLaw

def willing : Harness Unit where
  host := {
    spawn := fun _ _ w => (.ok ⟨2,by decide⟩,w)
    poll := fun _ w => (.ok (some (.ofExit 0)),w)
    signal := fun _ _ w => (.ok (),w)
    pause := id
    hear := fun _ w => w
    print := fun _ _ w => w
    listen := fun _ w => w
    interrupted := fun _ => false
    now := fun _ => default }
  locale := "en"
  listener := fun _ => []
  patience := 1

example : (willing.runAll (Variant.builtIn.map (Plan.configFor default)) ⟨(),false,[]⟩).1.map
    (Except.map (List.map PassResult.variant)) = some (.ok ["default","udp"]) := rfl

end Harness
end MatrixHarness
