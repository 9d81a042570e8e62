import MatrixHarness.Proofs.Pass.Transitions
import MatrixHarness.Proofs.Report.Words

/-! # The output of a pass

What a pass prints on the standard output, against what it does to processes.  A course of a pass is
put together from a few stretches, each of one thing that is done to a process and the notices of
it; what is said of the output of a pass is said of each of them. -/
namespace MatrixHarness

def Act.output? : Act → Option String
  | .printed .out text => some text
  | _ => none

def Act.due : Act → List Console.Kind
  | .spawned .server _ (.error _) => [.variant]
  | .spawned .server _ (.ok _) => [.variant,.started]
  | .spawned .testRunner _ _ => [.running]
  | .shutdownBegun _ => [.killing]
  | .shutdownEnded _ (.ok _) => [.killed]
  | _ => []

def Console.texts (c : Console) (ts : List (PassConfig × PassState)) : List String :=
  (ts.map fun t => c.stateText t.1 t.2).filter (· ≠ "")

namespace Acts

def output (acts : List Act) : List String := acts.filterMap Act.output?

def kinds (c : Console) (acts : List Act) : List Console.Kind := (output acts).filterMap c.kind?

def due (acts : List Act) : List Console.Kind := acts.flatMap Act.due

/-- The command line of a test-runner is printed only right before it is asked for. -/
def Announced (c : Console) (acts : List Act) : Prop :=
  ∀ before text after, acts = before ++ .printed .out text :: after →
    c.kind? text = some .running → ∃ cl answer rest,
      after = .spawned .testRunner cl answer :: rest ∧ c.RunningLine cl.shown text

variable {c : Console} {acts xs ys : List Act}

@[simp] theorem output_nil : output [] = [] := rfl
@[simp] theorem output_append (xs ys : List Act) : output (xs ++ ys) = output xs ++ output ys :=
  List.filterMap_append
theorem output_cons (a : Act) (acts : List Act) :
    output (a :: acts) = a.output?.toList ++ output acts := by
  cases h : a.output? <;> simp [output,h]

@[simp] theorem kinds_nil (c : Console) : kinds c [] = [] := rfl
@[simp] theorem kinds_append (c : Console) (xs ys : List Act) :
    kinds c (xs ++ ys) = kinds c xs ++ kinds c ys := by
  rw [kinds,output_append,List.filterMap_append]
  rfl

theorem kinds_cons (c : Console) (a : Act) (acts : List Act) :
    kinds c (a :: acts) = (a.output?.bind c.kind?).toList ++ kinds c acts := by
  rw [kinds,output_cons,List.filterMap_append,← kinds]
  rcases a.output? with _ | text
  · rfl
  · rcases hk : c.kind? text <;> simp [hk]

@[simp] theorem due_nil : due [] = [] := rfl
theorem due_cons (a : Act) (acts : List Act) : due (a :: acts) = a.due ++ due acts := rfl
@[simp] theorem due_append (xs ys : List Act) : due (xs ++ ys) = due xs ++ due ys :=
  List.flatMap_append

@[simp] theorem transitions_append (xs ys : List Act) :
    transitions (xs ++ ys) = transitions xs ++ transitions ys := by
  rw [transitions,notices_append,List.filterMap_append]
  rfl

theorem transitions_cons (a : Act) (acts : List Act) :
    transitions (a :: acts) = (a.notice.bind Notice.transition).toList ++ transitions acts := by
  rw [transitions,notices_cons,List.filterMap_append,← transitions]
  rcases a.notice with _ | n
  · rfl
  · rcases ht : n.transition <;> simp [ht]

@[simp] theorem transitions_nil : transitions [] = [] := rfl
@[simp] theorem texts_nil (c : Console) : c.texts [] = [] := rfl
@[simp] theorem texts_append (c : Console) (ts us : List (PassConfig × PassState)) :
    c.texts (ts ++ us) = c.texts ts ++ c.texts us := by
  rw [Console.texts,List.map_append,List.filter_append]
  rfl

/-- The texts of transitions are the lines of the steps, in their words. -/
theorem texts_eq_stateLines {ts : List (PassConfig × PassState)} (h : ∀ t ∈ ts,
      c.styled = false ∨ (Text.Plain t.1.variant.name ∧
        Text.Plain t.1.testRunnerCommandLine.shown)) :
    c.texts ts = ts.filterMap fun t => c.stateLine t.1 t.2 := by
  induction ts with
  | nil => rfl
  | cons t ts ih =>
    obtain ⟨hfirst,hrest⟩ := List.forall_mem_cons.mp h
    have hline := c.stateLine_eq hfirst t.2
    rw [Console.texts,List.map_cons,List.filter_cons,← Console.texts,ih hrest,List.filterMap_cons,
      hline]
    rcases hk : t.2.kind? with _ | k
    · simp [c.stateText_eq_empty t.1 hk]
    · simp [c.stateText_ne_empty t.1 hk]

theorem output_of_isCare (h : ∀ a ∈ acts, a.isCare = true) : output acts = [] := by
  refine List.filterMap_eq_nil_iff.mpr fun a ha => ?_
  have hcare := h a ha
  cases a <;> simp_all [Act.isCare,Act.output?]

theorem due_of_isCare (h : ∀ a ∈ acts, a.isCare = true) : due acts = [] := by
  refine List.flatMap_eq_nil_iff.mpr fun a ha => ?_
  have hcare := h a ha
  cases a <;> simp_all [Act.isCare,Act.due]

theorem Announced.append (hx : Announced c xs) (hy : Announced c ys) :
    Announced c (xs ++ ys) := by
  intro before text after hsplit hk
  -- the text stands in the latter stretch or in the former
  rcases List.append_eq_append_iff.mp hsplit with ⟨more,rfl,hys⟩ | ⟨more,rfl,hafter⟩
  · exact hy more text after hys hk
  · rcases more with _ | ⟨a,more⟩
    · exact hy [] text after hafter.symm hk
    · obtain ⟨rfl,rfl⟩ := List.cons.inj hafter
      obtain ⟨cl,answer,rest,rfl,htext⟩ := hx before text more rfl hk
      exact ⟨cl,answer,rest ++ ys,rfl,htext⟩

/-- Acts that print no command line announce none. -/
theorem announced_of_notMem (h : .running ∉ kinds c acts) : Announced c acts := by
  intro before text after hsplit hk
  refine absurd ?_ h
  rw [hsplit,kinds_append,kinds,kinds,output_cons]
  simp [Act.output?,hk]

end Acts

open Acts

namespace Harness

variable {σ : Type} {H : Harness σ} {config : PassConfig} {acts : List Act} {c : Console}

@[simp] theorem due_noticeActs (n : Notice) : due (H.noticeActs n) = [] := by
  refine List.flatMap_eq_nil_iff.mpr fun a ha => ?_
  rcases mem_noticeActs ha with rfl | ⟨stream,text,rfl⟩ <;> rfl

@[simp] theorem due_enterActs (state : PassState) : due (H.enterActs config state) = [] :=
  due_noticeActs _

@[simp] theorem transitions_enterActs (state : PassState) :
    transitions (H.enterActs config state) = [(config,state)] := by
  rw [transitions,notices_enterActs]
  rfl

section listener

variable (hl : H.listener = c.notice)
include hl

theorem enterActs_of_kind {state : PassState} {k : Console.Kind} (hk : state.kind? = some k) :
    H.enterActs config state =
      [.told (.entered config state),.printed .out (c.stateText config state)] := by
  have hne := c.stateText_ne_empty config hk
  simp [enterActs,noticeActs,hl,Console.notice,hne]

theorem enterActs_of_silent {state : PassState} (hk : state.kind? = none) :
    H.enterActs config state = [.told (.entered config state)] := by
  simp [enterActs,noticeActs,hl,Console.notice,c.stateText_eq_empty config hk]

theorem output_enterActs (config : PassConfig) (state : PassState) :
    output (H.enterActs config state) = c.texts [(config,state)] := by
  rcases hk : state.kind? with _ | k
  · rw [enterActs_of_silent hl hk]
    simp [output_cons,Act.output?,Console.texts,c.stateText_eq_empty config hk]
  · rw [enterActs_of_kind hl hk]
    simp [output_cons,Act.output?,Console.texts,c.stateText_ne_empty config hk]

theorem kinds_enterActs (config : PassConfig) (state : PassState) :
    kinds c (H.enterActs config state) = state.kind?.toList := by
  rcases hk : state.kind? with _ | k
  · rw [enterActs_of_silent hl hk]
    rfl
  · have htext := c.kind?_stateText config state
    rw [hk] at htext
    simp [enterActs_of_kind hl hk,kinds,output_cons,Act.output?,htext]

theorem output_cleanupFailed (config : PassConfig) (e : IoError) :
    output (H.noticeActs (.cleanupFailed config e)) = [] := by
  simp [noticeActs,hl,Console.notice,output_cons,Act.output?]

end listener

/-- Acts that are told as they should be: those by which something is done to a process stand next
to the notices of it. -/
inductive Reported (H : Harness σ) : List Act → Prop
  | append {xs ys : List Act} : Reported H xs → Reported H ys → Reported H (xs ++ ys)
  | care {acts : List Act} : (∀ a ∈ acts, a.isCare = true) → Reported H acts
  | silent (config : PassConfig) {state : PassState} : state.kind? = none →
    Reported H (H.enterActs config state)
  | cleanupFailed (config : PassConfig) (e : IoError) :
    Reported H (H.noticeActs (.cleanupFailed config e))
  | serverNotStarted (config : PassConfig) (e : IoError) :
    Reported H (H.enterActs config .serverStarting ++
      [.spawned .server config.serverCommandLine (.error e)])
  | serverStarted (config : PassConfig) (pid : Pid) :
    Reported H (H.enterActs config .serverStarting ++
      .spawned .server config.serverCommandLine (.ok pid) :: H.enterActs config .serverRunning)
  | asked (config : PassConfig) (answer : Except IoError Pid) :
    Reported H (H.enterActs config .testRunning ++
      [.spawned .testRunner config.testRunnerCommandLine answer])
  | stopping (config : PassConfig) (pid : Pid) :
    Reported H (H.enterActs config .serverStopping ++ [.shutdownBegun (.unreaped pid)])
  | stopped (config : PassConfig) (pid : Pid) (status : WaitStatus) :
    Reported H (.shutdownEnded (.unreaped pid) (.ok status) :: H.enterActs config .serverStopped)
  | notStopped (pid : Pid) (e : IoError) : Reported H [.shutdownEnded (.unreaped pid) (.error e)]

namespace Reported

theorem output (h : H.Reported acts) (hl : H.listener = c.notice) :
    Acts.output acts = c.texts (transitions acts) := by
  have henter (config : PassConfig) (state : PassState) := output_enterActs hl config state
  induction h with
  | append hx hy ihx ihy => rw [output_append,transitions_append,texts_append,ihx,ihy]
  | care h =>
    rw [output_of_isCare h,transitions,notices_of_isCare h]
    rfl
  | silent config hk => rw [henter,transitions_enterActs]
  | cleanupFailed config e =>
    rw [output_cleanupFailed hl,transitions,notices_noticeActs]
    rfl
  | serverStarted config pid =>
    have htwo := texts_append c [(config,.serverStarting)] [(config,.serverRunning)]
    simpa [output_cons,transitions_cons,henter,Act.output?,Act.notice] using htwo.symm
  | _ => simp [output_cons,transitions_cons,henter,Act.output?,Act.notice]

theorem kinds (h : H.Reported acts) (hl : H.listener = c.notice) :
    Acts.kinds c acts = due acts := by
  have henter (config : PassConfig) (state : PassState) := kinds_enterActs hl config state
  induction h with
  | append hx hy ihx ihy => rw [kinds_append,due_append,ihx,ihy]
  | care h => rw [Acts.kinds,output_of_isCare h,due_of_isCare h,List.filterMap_nil]
  | silent config hk => rw [henter,due_enterActs,hk,Option.toList_none]
  | cleanupFailed config e =>
    rw [Acts.kinds,output_cleanupFailed hl,due_noticeActs,List.filterMap_nil]
  | _ => simp [kinds_cons,due_cons,henter,Act.output?,Act.due,PassState.kind?]

theorem announced (h : H.Reported acts) (hl : H.listener = c.notice) :
    Announced c acts := by
  -- only one kind of stretch prints a command line at all
  have hquiet {xs : List Act} (hx : H.Reported xs) (hm : .running ∉ due xs) :
      Announced c xs := announced_of_notMem (by rwa [hx.kinds hl])
  induction h with
  | append hx hy ihx ihy => exact ihx.append ihy
  | asked config answer =>
    intro before text after hsplit hk
    rw [enterActs_of_kind hl (k := .running) rfl] at hsplit
    rcases before with _ | ⟨_,_ | ⟨_,before⟩⟩
    · simp at hsplit
    · obtain ⟨-,rfl,rfl⟩ : _ ∧ c.stateText config .testRunning = text ∧ _ := by
        simpa using hsplit
      exact ⟨_,_,_,rfl,c.runningLine _⟩
    · simp only [List.cons_append,List.nil_append,List.cons.injEq] at hsplit
      have hmem : .printed .out text ∈ before ++ .printed .out text :: after := by simp
      rw [← hsplit.2.2] at hmem
      simp at hmem
  | care h => exact hquiet (.care h) (by simp [due_of_isCare h])
  | silent config hk => exact hquiet (.silent config hk) (by simp)
  | cleanupFailed config e => exact hquiet (.cleanupFailed config e) (by simp)
  | serverNotStarted config e =>
    exact hquiet (.serverNotStarted config e) (by simp [due_cons,Act.due])
  | serverStarted config pid =>
    exact hquiet (.serverStarted config pid) (by simp [due_cons,Act.due])
  | stopping config pid => exact hquiet (.stopping config pid) (by simp [due_cons,Act.due])
  | stopped config pid status =>
    exact hquiet (.stopped config pid status) (by simp [due_cons,Act.due])
  | notStopped pid e => exact hquiet (.notStopped pid e) (by simp [due_cons,Act.due])

theorem begun (config : PassConfig) (cancelled : Bool) :
    H.Reported (H.enterActs config .notStarted ++ [.looked cancelled]) :=
  .append (.silent config rfl) (.care (by simp [Act.isCare]))

end Reported

/-! ## The stretches of a pass -/

theorem reported_servingActs (config : PassConfig) (pid : Pid) :
    H.Reported (H.servingActs config pid) := by
  simpa [servingActs] using (Reported.begun config false).append (.serverStarted config pid)

theorem TestCourse.reported {test : Option TestEnd} (h : H.TestCourse config acts test) :
    H.Reported acts := by
  cases h with
  | notStarted e => exact .asked config (.error e)
  | @pending pid _ hw => simpa using (Reported.asked config (.ok pid)).append (.care hw.isCare)
  | @notAwaited pid _ _ hw => simpa using (Reported.asked config (.ok pid)).append (.care hw.isCare)
  | @ended pid wait w hw =>
    have hstate : w.state.kind? = none := by
      rcases hp : w.passed <;> simp [Waited.state,hp,PassState.kind?]
    have hverdict : H.Reported (wait ++ H.enterActs config w.state) :=
      .append (.care hw.isCare) (.silent config hstate)
    simpa using (Reported.asked config (.ok pid)).append hverdict

theorem reported_stopping {pid : Pid} {n : Nat} {stop : List Act}
    (h : Child.ShutDown pid n stop none)
    (config : PassConfig) : H.Reported (H.enterActs config .serverStopping ++ stop) := by
  cases h with
  | pending ht => simpa using (Reported.stopping config pid).append (.care ht.isCare)

theorem reported_stopped {pid : Pid} {n : Nat} {stop : List Act} {s : Except IoError WaitStatus}
    (h : Child.ShutDown pid n stop (some s)) (config : PassConfig) (t : TestEnd) :
    H.Reported (H.enterActs config .serverStopping ++ (stop ++ H.closingActs config t s)) := by
  cases h with
  | @failed wait e answer ht =>
    have hwait : H.Reported (wait ++ [.signaled pid .kill answer]) :=
      .append (.care ht.isCare) (.care (by simp [Act.isCare]))
    have hclosing : H.Reported (H.closingActs config t (.error e)) := by
      rw [closingActs]
      split
      · exact .care (by simp)
      · exact .cleanupFailed config e
    have hend := (Reported.notStopped pid e).append hclosing
    simpa using (Reported.stopping config pid).append (hwait.append hend)
  | @ended wait status ht =>
    have hend : H.Reported (wait ++ .shutdownEnded (.unreaped pid) (.ok status) ::
        H.enterActs config .serverStopped) :=
      .append (.care ht.isCare) (.stopped config pid status)
    simpa [closingActs] using (Reported.stopping config pid).append hend

theorem PassCourse.reported {finish : Option PassEnd} (h : H.PassCourse config acts finish) :
    H.Reported acts := by
  cases h with
  | interrupted => exact .begun config true
  | serverNotStarted e =>
    simpa using (Reported.begun config false).append (.serverNotStarted config e)
  | testing ht => exact (reported_servingActs config _).append ht.reported
  | stopping ht hs =>
    exact (reported_servingActs config _).append (ht.reported.append (reported_stopping hs config))
  | served ht hs =>
    exact (reported_servingActs config _).append (ht.reported.append (reported_stopped hs config _))

theorem PassCourse.own_transitions {finish : Option PassEnd}
    (h : H.PassCourse config acts finish) :
    ∃ states : List PassState, Acts.transitions acts = states.map (config,·) := by
  rcases finish with _ | finish
  · obtain ⟨test,-,-,hn⟩ := h.notices_pending
    exact ⟨_,by rw [Acts.transitions,hn,filterMap_transition_entered]⟩
  · exact ⟨_,h.transitions⟩

end Harness
end MatrixHarness
