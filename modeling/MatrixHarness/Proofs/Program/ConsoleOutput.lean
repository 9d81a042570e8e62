import MatrixHarness.Proofs.Matrix.FirstFailure
import MatrixHarness.Proofs.Pass.Output
import MatrixHarness.Proofs.Program.ExitCode

/-! # The console

What the console says of a matrix is what happened in it: its texts are those of the transitions
between a banner and an end, they can be counted against what was done to processes, and the end
tells the result. -/
namespace MatrixHarness

def Act.asksServer : Act → Bool
  | .spawned .server _ _ => true
  | _ => false

def Act.stopsServer : Act → Bool
  | .shutdownEnded _ (.ok _) => true
  | _ => false

def Console.Kind.ofEnd : Except Trail (List PassResult) → Console.Kind
  | .ok _ => .summary
  | .error _ => .failure

open Acts

/-- What the console says of a matrix and what was done in it, with the answer to the whole, or none
as long as a child is waited for. -/
structure ConsoleLaw (locale : String) (c : Console) (m : MatrixSettings) (ps : List PassRun)
    (answer : Option (Except Trail (List PassResult))) (acts : List Act) : Prop where
  /-- The banner of the matrix, then pass by pass the texts of the transitions, then the end. -/
  output : output acts = c.opening Variant.builtIn.length m.server ::
    (ps.flatMap fun p => c.texts (transitions p.acts)) ++
      (answer.map (Program.ending c)).toList
  /-- The same word by word, unless what is put into a line sets a style of its own. -/
  worded : c.styled = false ∨ ('\x1b' ∉ m.server.lossy.toList ∧
      ∀ p ∈ ps, '\x1b' ∉ p.config.testRunnerCommandLine.shown.toList) →
    Acts.output acts = c.openingLine Variant.builtIn.length m.server.lossy ::
      (ps.flatMap fun p => (transitions p.acts).filterMap fun t => c.stateLine t.1 t.2) ++
        (answer.map (Program.ending c)).toList
  inOrder : ps.map PassRun.config <+: Variant.builtIn.map (Plan.configFor m)
  own : ∀ p ∈ ps, ∃ states : List PassState, transitions p.acts = states.map (p.config,·)
  /-- Behind the banner there is, in the order of time, just what is due for the acts. -/
  kinds : kinds c acts = .opening :: due acts ++ (answer.map Console.Kind.ofEnd).toList
  variants : (Acts.kinds c acts).count .variant = acts.countP Act.asksServer
  started : (Acts.kinds c acts).count .started = acts.countP Act.startsServer
  killing : answer.isSome = true →
    (Acts.kinds c acts).count .killing = acts.countP Act.startsServer
  killed : (Acts.kinds c acts).count .killed = acts.countP Act.stopsServer
  announced : Announced c acts
  summary_iff : .summary ∈ Acts.kinds c acts ↔ ∃ results, answer = some (.ok results)
  failure_iff : .failure ∈ Acts.kinds c acts ↔ ∃ t, answer = some (.error t)
  endedOnce : answer.isSome = true →
    (Acts.kinds c acts).count .summary + (Acts.kinds c acts).count .failure = 1
  /-- The summary has a row for each variant, in their order. -/
  summary : ∀ results, answer = some (.ok results) → ∃ rows,
    Program.ending c (.ok results) = "\n" ++ c.tint "1" c.words.summary ++ "\n" ++
      String.join rows ++ "\n" ++ c.tint "1;32" c.words.allPassed ++ "\n" ∧
    rows = results.map (fun result => c.passedRow result.variant result.duration) ∧
    List.Forall₂ (fun v row => ∃ time, row = c.passedRow v.name time) Variant.builtIn rows
  /-- The banner of a failure has one row, of the pass that failed and of its first stage that
  did. -/
  failure : ∀ t, answer = some (.error t) → ∃ before p stage later, ps = before ++ [p] ∧
    p.result = some (.error t) ∧ FailsAt locale p.config p.acts t stage later ∧
    Program.ending c (.error t) = "\n" ++ c.tint "1;31" c.words.failure ++ "\n" ++
      Console.dashes ++ "\n" ++ c.failedRow p.config.variant.name stage.reason

/-! ## Counting texts -/

/-- How often a kind of text is due for an act.  What tells of a matrix as a whole is due for
none. -/
theorem Act.count_due (a : Act) :
    a.due.count .variant = (if a.asksServer then 1 else 0) ∧
      a.due.count .started = (if a.startsServer then 1 else 0) ∧
      a.due.count .killing = (if a.beginsShutdown then 1 else 0) ∧
      a.due.count .killed = (if a.stopsServer then 1 else 0) ∧
      a.due.count .summary = 0 ∧ a.due.count .failure = 0 := by
  cases a with
  | spawned role cl answer => rcases role <;> rcases answer <;> exact ⟨rfl,rfl,rfl,rfl,rfl,rfl⟩
  | shutdownEnded c answer => rcases answer <;> exact ⟨rfl,rfl,rfl,rfl,rfl,rfl⟩
  | _ => exact ⟨rfl,rfl,rfl,rfl,rfl,rfl⟩

namespace Acts

theorem count_due {k : Console.Kind} {p : Act → Bool}
    (h : ∀ a : Act, a.due.count k = if p a then 1 else 0) (acts : List Act) :
    (due acts).count k = acts.countP p := by
  induction acts with
  | nil => rfl
  | cons a acts ih => rw [due_cons,List.count_append,List.countP_cons,h a,ih,Nat.add_comm]

theorem count_due_eq_zero {k : Console.Kind} (h : ∀ a : Act, a.due.count k = 0)
    (acts : List Act) : (due acts).count k = 0 := by
  induction acts with
  | nil => rfl
  | cons a acts ih => rw [due_cons,List.count_append,h a,ih]

theorem countP_milestones {p : Act → Bool} (h : ∀ a, p a = true → a.isMilestone = true)
    (acts : List Act) : (milestones acts).countP p = acts.countP p := by
  rw [milestones,List.countP_filter]
  refine List.countP_congr fun a _ => ?_
  simpa using h a

end Acts

/-! ## The passes of a matrix -/

theorem ServerLife.shutdowns {config : PassConfig} {patience : Nat} {acts : List Act}
    (h : ServerLife config patience acts true) :
    acts.countP Act.beginsShutdown = acts.countP Act.startsServer := by
  rw [← countP_milestones (by rintro ⟨⟩ <;> simp [Act.beginsShutdown,Act.isMilestone]) acts,
    ← countP_milestones (by rintro ⟨⟩ <;> simp [Act.startsServer,Act.isMilestone]) acts]
  cases h with
  | notWanted _ hm => simp [hm]
  | notStarted e hm => simp [hm,Act.beginsShutdown,Act.startsServer]
  | stopped pid test answer hm => simp [hm,List.countP_cons,Act.beginsShutdown,Act.startsServer]

namespace PassRun

variable {σ : Type} {H : Harness σ} {r next : Run σ} {p : PassRun}

theorem Runs.shutdowns (h : p.Runs H r next) (hp : p.result.isSome = true) :
    p.acts.countP Act.beginsShutdown = p.acts.countP Act.startsServer := by
  have hlife := h.serverLife
  rw [hp] at hlife
  exact hlife.shutdowns

end PassRun

namespace Harness

variable {σ : Type} {H : Harness σ} {configs : List PassConfig} {r last : Run σ} {ps : List PassRun}

theorem texts_flatMap (c : Console) (ps : List PassRun) :
    c.texts (transitions (ps.flatMap PassRun.acts)) =
      ps.flatMap fun p => c.texts (transitions p.acts) := by
  induction ps with
  | nil => rfl
  | cons p ps ih =>
    rw [List.flatMap_cons,List.flatMap_cons,transitions_append,texts_append,ih]

namespace MatrixCourse

theorem reported (h : H.MatrixCourse configs r ps last) :
    H.Reported (ps.flatMap PassRun.acts) := by
  induction h with
  | done r => exact .care (by simp)
  | halted configs hp hr =>
    obtain ⟨finish,duration,-,hcourse,-⟩ := hp.course
    simpa using hcourse.reported
  | further hp hr hps ih =>
    obtain ⟨finish,duration,-,hcourse,-⟩ := hp.course
    rw [List.flatMap_cons]
    exact hcourse.reported.append ih

theorem own_transitions (h : H.MatrixCourse configs r ps last) : ∀ p ∈ ps,
    ∃ states : List PassState, transitions p.acts = states.map (p.config,·) := by
  intro p hp
  obtain ⟨s,next,hruns⟩ := h.course p hp
  obtain ⟨finish,duration,-,hcourse,-⟩ := hruns.course
  exact hcourse.own_transitions

theorem shutdowns (h : H.MatrixCourse configs r ps last)
    (hc : (conclusion ps).isSome = true) :
    (ps.flatMap PassRun.acts).countP Act.beginsShutdown =
      (ps.flatMap PassRun.acts).countP Act.startsServer := by
  induction h with
  | done r => rfl
  | @halted p _ _ configs hp hr =>
    have hresult : p.result.isSome = true := by
      rcases hr : p.result with _ | result
      · simp [conclusion,hr] at hc
      · rfl
    simpa using hp.shutdowns hresult
  | @further p _ _ _ _ ps hp hr hps ih =>
    -- a pass that succeeded is over, and so is the rest of the matrix
    obtain ⟨result,hresult⟩ := hr
    have hrest : (conclusion ps).isSome = true := by simpa [conclusion,hresult] using hc
    rw [List.flatMap_cons,List.countP_append,List.countP_append,ih hrest,
      hp.shutdowns (by simp [hresult])]

end MatrixCourse
end Harness

/-! ## What stands around the passes -/

namespace Console

variable {c : Console} {acts : List Act} {answer : Option (Except Trail (List PassResult))}
  {k : Kind}

theorem kind?_ending (c : Console) (result : Except Trail (List PassResult)) :
    c.kind? (Program.ending c result) = some (.ofEnd result) := by
  rcases result with t | results
  · exact c.kind?_failure t
  · exact c.kind?_summary results

theorem kinds_openingActs (c : Console) (configs : List PassConfig) (server : RawText) :
    kinds c (Program.openingActs c configs server) = [.opening] := by
  have hk := c.kind?_opening configs.length server
  simp [Program.openingActs,kinds_cons,Act.output?,hk]

theorem output_endingActs (c : Console) (answer : Option (Except Trail (List PassResult))) :
    output (Program.endingActs c answer) = (answer.map (Program.ending c)).toList := by
  rcases answer with _ | result <;> rfl

theorem kinds_endingActs (c : Console) (answer : Option (Except Trail (List PassResult))) :
    kinds c (Program.endingActs c answer) = (answer.map Kind.ofEnd).toList := by
  rw [kinds,output_endingActs]
  rcases answer with _ | result
  · rfl
  · simp [c.kind?_ending]

theorem due_endingActs (c : Console) (answer : Option (Except Trail (List PassResult))) :
    due (Program.endingActs c answer) = [] := by
  rcases answer with _ | result <;> rfl

section kinds

variable (h : kinds c acts = .opening :: due acts ++ (answer.map Kind.ofEnd).toList)
include h

theorem count_kinds (hk : k ≠ .opening) : (kinds c acts).count k =
    (due acts).count k + ((answer.map Kind.ofEnd).toList).count k := by
  rw [h,List.count_append,List.count_cons_of_ne hk.symm]

/-- What tells of a pass is printed as often as it is due. -/
theorem count_kinds_of_due {p : Act → Bool} (hp : ∀ a : Act, a.due.count k = if p a then 1 else 0)
    (hk : k ≠ .opening) (hs : k ≠ .summary) (hf : k ≠ .failure) :
    (kinds c acts).count k = acts.countP p := by
  have hend : ((answer.map Kind.ofEnd).toList).count k = 0 := by
    rcases answer with _ | (t | results)
    · rfl
    · exact List.count_eq_zero.mpr (by simpa [Kind.ofEnd] using hf)
    · exact List.count_eq_zero.mpr (by simpa [Kind.ofEnd] using hs)
  rw [count_kinds h hk,count_due hp,hend,Nat.add_zero]

theorem count_kinds_of_end (hd : ∀ a : Act, a.due.count k = 0) (hk : k ≠ .opening) :
    (kinds c acts).count k = ((answer.map Kind.ofEnd).toList).count k := by
  rw [count_kinds h hk,count_due_eq_zero hd,Nat.zero_add]

end kinds
end Console

namespace Harness

variable {σ : Type} {H : Harness σ} {r last : Run σ} {ps : List PassRun} {m : MatrixSettings}
  {c : Console}

open Program Console

namespace MatrixCourse

variable (h : H.MatrixCourse (Variant.builtIn.map (Plan.configFor m)) r ps last)
include h

theorem summary_rows {results : List PassResult} (hc : conclusion ps = some (.ok results))
    (c : Console) : List.Forall₂ (fun v row => ∃ time, row = c.passedRow v.name time)
      Variant.builtIn (results.map fun result => c.passedRow result.variant result.duration) := by
  have hreports := congrArg (List.map Prod.fst) (h.launchLaw.reports results hc)
  rw [List.map_map,List.map_map] at hreports
  have hnames : List.Forall₂ (· = ·) (Variant.builtIn.map Variant.name)
      (results.map PassResult.variant) := by
    rw [List.forall₂_eq_eq_eq]
    exact hreports.symm
  rw [List.forall₂_map_left_iff,List.forall₂_map_right_iff] at hnames
  rw [List.forall₂_map_right_iff]
  exact hnames.imp fun v result hname => ⟨result.duration,by rw [hname]⟩

/-- The names of the variants set no style, so the lines of a pass are printed in their words if its
command does not. -/
theorem texts_eq_stateLines (hplain : c.styled = false ∨
      ∀ p ∈ ps, Text.Plain p.config.testRunnerCommandLine.shown) :
    (ps.flatMap fun p => c.texts (transitions p.acts)) =
      ps.flatMap fun p => (transitions p.acts).filterMap fun t => c.stateLine t.1 t.2 := by
  refine List.flatMap_congr fun p hp => Acts.texts_eq_stateLines fun t ht => ?_
  obtain ⟨states,hstates⟩ := h.own_transitions p hp
  rw [hstates] at ht
  obtain ⟨state,-,rfl⟩ := List.mem_map.mp ht
  refine hplain.imp_right fun hall => ⟨?_,hall p hp⟩
  have hconfig := h.configs_prefix.subset (List.mem_map_of_mem hp)
  obtain ⟨v,hv,hname⟩ := List.mem_map.mp hconfig
  have hnames : ∀ v ∈ Variant.builtIn, Text.Plain v.name := by
    simp only [Variant.builtIn,Text.Plain]
    decide
  rw [← hname]
  exact hnames v hv

theorem failure_row {t : Trail} (hc : conclusion ps = some (.error t)) (c : Console) :
    ∃ before p stage later, ps = before ++ [p] ∧ p.result = some (.error t) ∧
      FailsAt H.locale p.config p.acts t stage later ∧
      ending c (.error t) = "\n" ++ c.tint "1;31" c.words.failure ++ "\n" ++ dashes ++ "\n" ++
        c.failedRow p.config.variant.name stage.reason := by
  obtain ⟨before,p,after,rfl,hp,-⟩ := error_of_conclusion hc
  obtain ⟨rfl,-⟩ := h.launchLaw.failed before p after t rfl hp
  obtain ⟨s,next,hruns⟩ := h.course p (by simp)
  obtain ⟨stage,later,hfails⟩ := hruns.failsAt hp
  refine ⟨before,p,stage,later,rfl,hp,hfails,?_⟩
  rw [ending,c.failure_eq hfails.failure]

theorem consoleLaw (hl : H.listener = c.notice) :
    ConsoleLaw H.locale c m ps (conclusion ps)
      (openingActs c (Variant.builtIn.map (Plan.configFor m)) m.server ++
        (ps.flatMap PassRun.acts ++ endingActs c (conclusion ps))) := by
  have hpasses := h.reported
  -- neither the banner nor the end owes a text to what was done to a process
  generalize hbefore : openingActs c (Variant.builtIn.map (Plan.configFor m)) m.server = before
  generalize hafter : endingActs c (conclusion ps) = after
  have hkinds : kinds c (before ++ (ps.flatMap PassRun.acts ++ after)) =
      .opening :: due (before ++ (ps.flatMap PassRun.acts ++ after)) ++
        ((conclusion ps).map Kind.ofEnd).toList := by
    subst hbefore hafter
    rw [kinds_append,kinds_append,kinds_openingActs,kinds_endingActs,hpasses.kinds hl,due_append,
      due_append,due_endingActs,List.append_nil]
    rfl
  have hcount (a : Act) := a.count_due
  have houtput : output (before ++ (ps.flatMap PassRun.acts ++ after)) =
      c.opening Variant.builtIn.length m.server ::
        (ps.flatMap fun p => c.texts (transitions p.acts)) ++
          ((conclusion ps).map (ending c)).toList := by
    subst hbefore hafter
    rw [output_append,output_append,hpasses.output hl,texts_flatMap,output_endingActs]
    rfl
  constructor
  case output => exact houtput
  case worded =>
    intro hplain
    rw [houtput,c.opening_eq _ (hplain.imp_right And.left),
      h.texts_eq_stateLines (hplain.imp_right And.right)]
  case inOrder => exact h.configs_prefix
  case own => exact h.own_transitions
  case kinds => exact hkinds
  case variants =>
    exact count_kinds_of_due hkinds (fun a => (hcount a).1) (by simp) (by simp) (by simp)
  case started =>
    exact count_kinds_of_due hkinds (fun a => (hcount a).2.1) (by simp) (by simp) (by simp)
  case killing =>
    intro hover
    have hb : before.countP Act.beginsShutdown = before.countP Act.startsServer := by
      subst hbefore
      rfl
    have ha : after.countP Act.beginsShutdown = after.countP Act.startsServer := by
      subst hafter
      rcases conclusion ps with _ | result <;> rfl
    rw [count_kinds_of_due hkinds (fun a => (hcount a).2.2.1) (by simp) (by simp) (by simp)]
    simp only [List.countP_append,h.shutdowns hover,hb,ha]
  case killed =>
    exact count_kinds_of_due hkinds (fun a => (hcount a).2.2.2.1) (by simp) (by simp) (by simp)
  case announced =>
    subst hbefore hafter
    have hopening : Announced c (openingActs c (Variant.builtIn.map (Plan.configFor m)) m.server) :=
      announced_of_notMem (by simp [kinds_openingActs])
    have hending : Announced c (endingActs c (conclusion ps)) := by
      refine announced_of_notMem ?_
      rw [kinds_endingActs]
      rcases conclusion ps with _ | (t | results) <;> simp [Kind.ofEnd]
    exact hopening.append ((hpasses.announced hl).append hending)
  case summary_iff =>
    rw [← List.count_pos_iff,count_kinds_of_end hkinds (fun a => (hcount a).2.2.2.2.1) (by simp)]
    rcases conclusion ps with _ | (t | results) <;> simp [Kind.ofEnd]
  case failure_iff =>
    rw [← List.count_pos_iff,count_kinds_of_end hkinds (fun a => (hcount a).2.2.2.2.2) (by simp)]
    rcases conclusion ps with _ | (t | results) <;> simp [Kind.ofEnd]
  case endedOnce =>
    intro hover
    rw [count_kinds_of_end hkinds (fun a => (hcount a).2.2.2.2.1) (by simp),
      count_kinds_of_end hkinds (fun a => (hcount a).2.2.2.2.2) (by simp)]
    rcases hc : conclusion ps with _ | (t | results)
    · simp [hc] at hover
    · rfl
    · rfl
  case summary => exact fun results hc => ⟨_,c.summary_eq results,rfl,h.summary_rows hc c⟩
  case failure => exact fun t hc => h.failure_row hc c

end MatrixCourse
end Harness

namespace Program

variable {σ : Type}

/-- What the console says is what happened, in every language and with every styling, whatever the
host answers and whenever the run is cancelled, once a command line and a settings file lead to a
matrix. -/
theorem execute_consoleLaw (P : Program σ) (locale : String) (c : Console) (i : Invocation)
    (s : Settings) (r : Run σ) {m : MatrixSettings}
    (hm : Resolution.resolve P.environment P.directory i s = .ok m) :
    ∃ acts, (P.execute locale c i s r).2.history = r.history ++ acts ∧
      ConsoleLaw locale c m
        (P.passes locale c m.server (Variant.builtIn.map (Plan.configFor m)) r)
        (P.execute locale c i s r).1 acts := by
  rw [execute_resolved hm]
  obtain ⟨hanswer,hhistory,last,hmatrix⟩ :=
    P.runPlan_course locale c m.server (Variant.builtIn.map (Plan.configFor m)) r
  rw [hanswer] at hhistory ⊢
  exact ⟨_,hhistory,hmatrix.consoleLaw rfl⟩

def untroubled : Program Unit where
  host := Harness.willing.host
  environment := ⟨[]⟩
  directory := RawText.ofString "/opt"
  contentsOf := fun _ => .error .noSuchFile
  patience := 1

def plain : Invocation :=
  { memcached := RawText.ofString "./srv", testRunner := some (RawText.ofString "./test") }

/-- The program on a host that counts the polls, at the third of which the second test-runner is
found to have failed. -/
def troubled : Program Nat where
  host := {
    spawn := fun _ _ polls => (.ok ⟨4,by decide⟩,polls)
    poll := fun _ polls => (.ok (some (.ofExit (if polls = 2 then 3 else 0))),polls + 1)
    signal := fun _ _ polls => (.ok (),polls)
    pause := id
    hear := fun _ polls => polls
    print := fun _ _ polls => polls
    listen := fun _ polls => polls
    interrupted := fun _ => false
    now := fun _ => default }
  environment := ⟨[]⟩
  directory := RawText.ofString "/opt"
  contentsOf := fun _ => .error .noSuchFile
  patience := 1

/-- A run that succeeds and one that fails, in different languages and with different styling. -/
theorem execute_consoleLaw_twoRuns :
    let m : MatrixSettings := ⟨RawText.ofString "./srv",RawText.ofString "./test",2,false⟩
    let passed := untroubled.execute "en" ⟨"zh-CN",true⟩ plain {} ⟨(),false,[]⟩
    let failed := troubled.execute "en" ⟨"en",false⟩ plain {} ⟨0,false,[]⟩
    Resolution.resolve untroubled.environment untroubled.directory plain {} = .ok m ∧
    Resolution.resolve troubled.environment troubled.directory plain {} = .ok m ∧
    (∃ ps, ConsoleLaw "en" ⟨"zh-CN",true⟩ m ps passed.1 passed.2.history) ∧
    passed.1.map Except.isOk = some true ∧
    output passed.2.history = ["\x1b[36m正在针对 ./srv 运行 2 个变体\x1b[0m\n",
      "\n\x1b[1m=== 变体 'default' ===\x1b[0m\n","\x1b[34mMemcached 已启动。\x1b[0m\n",
      "\x1b[34m正在运行: ./test\x1b[0m\n","\x1b[34m正在终止 memcached...\x1b[0m\n",
      "\x1b[34mMemcached 已终止。\x1b[0m\n",
      "\n\x1b[1m=== 变体 'udp' ===\x1b[0m\n","\x1b[34mMemcached 已启动。\x1b[0m\n",
      "\x1b[34m正在运行: ./test -U\x1b[0m\n","\x1b[34m正在终止 memcached...\x1b[0m\n",
      "\x1b[34mMemcached 已终止。\x1b[0m\n",
      "\n\x1b[1m--- 矩阵摘要 ---\x1b[0m\n" ++
        "  - \x1b[32m通过        \x1b[0m | default          |     0.00ns\n" ++
        "  - \x1b[32m通过        \x1b[0m | udp              |     0.00ns\n" ++
        "\n\x1b[1;32m所有变体均已通过\x1b[0m\n"] ∧
    (∃ ps, ConsoleLaw "en" ⟨"en",false⟩ m ps failed.1 failed.2.history) ∧
    failed.1.map Except.isOk = some false ∧
    output failed.2.history = ["Running 2 variant(s) against ./srv\n",
      "\n=== Variant 'default' ===\n","Memcached started.\n","Running: ./test\n",
      "Killing memcached...\n","Memcached killed.\n",
      "\n=== Variant 'udp' ===\n","Memcached started.\n","Running: ./test -U\n",
      "Killing memcached...\n","Memcached killed.\n",
      "\nMATRIX FAILED\n" ++
        "--------------------------------------------------------------------------------\n" ++
        "  - Failed     | udp              | Test Failure\n"] := by
  intro m passed failed
  have hpassed : Resolution.resolve untroubled.environment untroubled.directory plain {} = .ok m :=
    rfl
  have hfailed : Resolution.resolve troubled.environment troubled.directory plain {} = .ok m := rfl
  refine ⟨hpassed,hfailed,?_,by decide +kernel,by decide +kernel,?_,by decide +kernel,
    by decide +kernel⟩
  · obtain ⟨acts,hacts,hlaw⟩ :=
      execute_consoleLaw untroubled "en" ⟨"zh-CN",true⟩ plain {} ⟨(),false,[]⟩ hpassed
    have hhistory : passed.2.history = acts := hacts
    exact ⟨_,hhistory ▸ hlaw⟩
  · obtain ⟨acts,hacts,hlaw⟩ :=
      execute_consoleLaw troubled "en" ⟨"en",false⟩ plain {} ⟨0,false,[]⟩ hfailed
    have hhistory : failed.2.history = acts := hacts
    exact ⟨_,hhistory ▸ hlaw⟩

end Program
end MatrixHarness
