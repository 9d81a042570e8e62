import MatrixHarness.Program
import MatrixHarness.Proofs.Matrix.Launches

/-! # The exit code

What the exit code of the program says of what was done.  It is 0 only if the user was answered, or
if the pass of every variant was completed; and whatever fails before the matrix fails before any
process is asked for. -/
namespace MatrixHarness

open Acts

namespace Program

variable {σ : Type}

def settledLocale (P : Program σ) (lang : Option String) (s : Settings) (locale : String) :
    String :=
  match lang, s.language with
  | none, some l => Locale.choose (some l) P.environment
  | _, _ => locale

/-- The locale that is spoken once the settings are known. -/
def spoken (P : Program σ) (words : List RawText) (lang : Option String) (s : Settings) : String :=
  P.settledLocale lang s
    (Locale.choose (Arguments.glanceLanguage (words.map RawText.lossy)) P.environment)

/-- The program gets as far as to execute what a command line says, with this answer. -/
def Executes (P : Program σ) (words : List RawText) (r : Run σ)
    (answer : Option (Except Trail (List PassResult))) (last : Run σ) : Prop :=
  ∃ i lang s, Arguments.read words = .run i lang ∧ P.settings i = .ok s ∧
    P.execute (P.spoken words lang s) ⟨P.spoken words lang s,P.environment.styled⟩ i s r =
      (answer,last)

/-- A command line and the settings file that it names lead to what all passes share. -/
def Resolves (P : Program σ) (words : List RawText)
    (answer : Except Resolution.Failed MatrixSettings) : Prop :=
  ∃ i lang s, Arguments.read words = .run i lang ∧ P.settings i = .ok s ∧
    Resolution.resolve P.environment P.directory i s = answer

/-- The program fails before its matrix: for its usage, for its settings file, or for a reference in
the path of the test-runner. -/
def FailsEarly (P : Program σ) (words : List RawText) : Prop :=
  (∃ program why, Arguments.read words = .refused program why) ∨
  (∃ i lang f, Arguments.read words = .run i lang ∧ P.settings i = .error f) ∨
  ∃ f, P.Resolves words (.error f)

/-- What the exit code says of what was read and done. -/
structure ExitLaw (P : Program σ) (words : List RawText) (r : Run σ) (code : Option Nat)
    (last : Run σ) : Prop where
  success_iff : code = some 0 ↔
    (∃ program, Arguments.read words = .help program) ∨ Arguments.read words = .version ∨
    ∃ results done, P.Executes words r (some (.ok results)) done
  usage_iff : code = some 2 ↔ ∃ program why, Arguments.read words = .refused program why
  failure_iff : code = some 1 ↔
    (∃ i lang f, Arguments.read words = .run i lang ∧ P.settings i = .error f) ∨
    ∃ t done, P.Executes words r (some (.error t)) done
  waiting_iff : code = none ↔ ∃ done, P.Executes words r none done
  /-- A user who asks for help or for the version is answered, and nothing else is done. -/
  answered : (∃ program, Arguments.read words = .help program) ∨ Arguments.read words = .version →
    ∃ text, last.history = r.history ++ [.printed .out text]
  /-- Whatever fails early is told, and nothing else is done. -/
  early : P.FailsEarly words → (code = some 1 ∨ code = some 2) ∧
    ∃ text, last.history = r.history ++ [.printed .err text]
  /-- Otherwise the matrix is announced and an interrupt can stop it before anything is started. -/
  begun : ∀ m, P.Resolves words (.ok m) → ∃ opening interrupt,
    r.history ++ [.printed .out opening,.listened interrupt] <+: last.history
  completed : ∀ results done, P.Executes words r (some (.ok results)) done →
    ∃ m before passes after, P.Resolves words (.ok m) ∧
      last.history = r.history ++ (before ++ (passes.flatten ++ after)) ∧
      launches before = [] ∧ launches after = [] ∧
      List.Forall₂ (fun v acts => Completed m.serverWords (m.runnerWords v) acts)
        Variant.builtIn passes

/-! ## Courses of the program -/

def codeOf : Except Trail (List PassResult) → Nat
  | .ok _ => exitSuccess
  | .error _ => exitFailure

def errorActs (locale : String) : Option (Except Trail (List PassResult)) → List Act
  | some (.error t) => [.printed .err ("Error: " ++ t.text locale ++ "\n")]
  | _ => []

/-- The acts by which a matrix is announced; behind them an interrupt can stop it. -/
def openingActs (console : Console) (configs : List PassConfig) (server : RawText) : List Act :=
  [.printed .out (console.opening configs.length server),.listened console.interrupt]

def ending (console : Console) : Except Trail (List PassResult) → String
  | .ok results => console.summary results
  | .error t => console.failure t

def endingActs (console : Console) (answer : Option (Except Trail (List PassResult))) : List Act :=
  (answer.map fun result => .printed .out (ending console result)).toList

def announced (P : Program σ) (console : Console) (server : RawText) (configs : List PassConfig)
    (r : Run σ) : Run σ :=
  (r.print P.host (.out,console.opening configs.length server)).listen P.host console.interrupt

def passes (P : Program σ) (locale : String) (console : Console) (server : RawText)
    (configs : List PassConfig) (r : Run σ) : List PassRun :=
  (P.harness locale console).passes configs (P.announced console server configs r)

variable {P : Program σ} {words : List RawText} {r : Run σ} {i : Invocation}
  {lang : Option String} {s : Settings}

theorem launches_errorActs (locale : String) (answer : Option (Except Trail (List PassResult))) :
    launches (errorActs locale answer) = [] := by
  rcases answer with _ | (t | results) <;> rfl

theorem launches_endingActs (console : Console)
    (answer : Option (Except Trail (List PassResult))) :
    launches (endingActs console answer) = [] := by
  rcases answer with _ | result <;> rfl

theorem history_close (P : Program σ) (console : Console)
    (result : Except Trail (List PassResult)) (r : Run σ) :
    (P.close console result r).history = r.history ++ endingActs console (some result) := by
  rcases result with t | results <;> exact r.history_print P.host _

theorem runPlan_course (P : Program σ) (locale : String) (console : Console) (server : RawText)
    (configs : List PassConfig) (r : Run σ) :
    (P.runPlan locale console server configs r).1 =
        Harness.conclusion (P.passes locale console server configs r) ∧
      (P.runPlan locale console server configs r).2.history =
        r.history ++ (openingActs console configs server ++
          ((P.passes locale console server configs r).flatMap PassRun.acts ++
            endingActs console (P.runPlan locale console server configs r).1)) ∧
      ∃ last, (P.harness locale console).MatrixCourse configs
        (P.announced console server configs r) (P.passes locale console server configs r) last := by
  have hstart : (P.announced console server configs r).history =
      r.history ++ openingActs console configs server := by
    simp [announced,openingActs]
  obtain ⟨hanswer,hmatrix⟩ :=
    (P.harness locale console).runAll_course configs (P.announced console server configs r)
  have hlast := hmatrix.continues.history
  rw [hstart] at hlast
  rw [passes]
  rcases hall : (P.harness locale console).runAll configs (P.announced console server configs r)
    with ⟨_ | result,last⟩ <;> rw [hall] at hanswer hmatrix hlast <;> rw [announced] at hall <;>
    simp only [runPlan,hall]
  · exact ⟨hanswer,by simpa [endingActs] using hlast,last,hmatrix⟩
  · exact ⟨hanswer,by simp [history_close,hlast],last,hmatrix⟩

theorem execute_unresolved {f : Resolution.Failed}
    (h : Resolution.resolve P.environment P.directory i s = .error f) (locale : String)
    (console : Console) (r : Run σ) :
    P.execute locale console i s r = (some (.error (f.trail locale)),r) := by
  simp [execute,h]

/-- Otherwise the passes of the built-in variants are run. -/
theorem execute_resolved {m : MatrixSettings}
    (h : Resolution.resolve P.environment P.directory i s = .ok m) (locale : String)
    (console : Console) (r : Run σ) :
    P.execute locale console i s r =
      P.runPlan locale console m.server (Variant.builtIn.map (Plan.configFor m)) r := by
  have hplan : Plan.make? m Variant.builtIn = some (Variant.builtIn.map (Plan.configFor m)) := rfl
  simp only [execute,h,hplan]

/-- A command line is executed in one locale, the active one and the one that is passed on. -/
theorem prepare_ready (h : Arguments.read words = .run i lang) (hs : P.settings i = .ok s)
    (before : String) : (P.prepare words).run before =
      (.ready ⟨i,s,P.spoken words lang s⟩,P.spoken words lang s) := by
  simp only [prepare,h,hs,spoken,settledLocale,settleLocale]
  rcases lang with _ | l
  · rcases s.language with _ | l <;> rfl
  · rfl

theorem run_answered (h : (∃ program, Arguments.read words = .help program) ∨
    Arguments.read words = .version) :
    (P.run words r).1 = some 0 ∧
      ∃ text, (P.run words r).2.history = r.history ++ [.printed .out text] := by
  rcases h with ⟨program,h⟩ | h
  · simp only [run,prepare,h]
    exact ⟨rfl,_,r.history_print P.host _⟩
  · simp only [run,prepare,h]
    exact ⟨rfl,_,r.history_print P.host _⟩

theorem run_refused {program : String} {why : Arguments.Refusal}
    (h : Arguments.read words = .refused program why) :
    (P.run words r).1 = some 2 ∧
      ∃ text, (P.run words r).2.history = r.history ++ [.printed .err text] := by
  simp only [run,prepare,h]
  exact ⟨rfl,_,r.history_print P.host _⟩

theorem run_unsettled {f : Settings.LoadFailure} (h : Arguments.read words = .run i lang)
    (hs : P.settings i = .error f) :
    (P.run words r).1 = some 1 ∧
      ∃ text, (P.run words r).2.history = r.history ++ [.printed .err text] := by
  simp only [run,prepare,h,hs]
  exact ⟨rfl,_,r.history_print P.host _⟩

theorem run_ready (h : Arguments.read words = .run i lang) (hs : P.settings i = .ok s)
    (r : Run σ) : P.run words r = P.conclude (P.spoken words lang s)
      (P.execute (P.spoken words lang s) ⟨P.spoken words lang s,P.environment.styled⟩ i s r) := by
  simp only [run,prepare_ready h hs]

theorem run_executed {answer : Option (Except Trail (List PassResult))} {done : Run σ}
    (h : Arguments.read words = .run i lang) (hs : P.settings i = .ok s)
    (he : P.execute (P.spoken words lang s) ⟨P.spoken words lang s,P.environment.styled⟩ i s r =
      (answer,done)) :
    (P.run words r).1 = answer.map codeOf ∧
      (P.run words r).2.history = done.history ++ errorActs (P.spoken words lang s) answer := by
  rw [run_ready h hs,he]
  rcases answer with _ | (t | results)
  · exact ⟨rfl,by simp [conclude,errorActs]⟩
  · exact ⟨rfl,done.history_print P.host _⟩
  · exact ⟨rfl,by simp [conclude,errorActs]⟩

theorem exitLaw_answered (h : (∃ program, Arguments.read words = .help program) ∨
    Arguments.read words = .version) : P.ExitLaw words r (P.run words r).1 (P.run words r).2 := by
  obtain ⟨hcode,hlast⟩ := run_answered (P := P) (r := r) h
  constructor
  case answered => exact fun _ => hlast
  all_goals rcases h with ⟨program,h⟩ | h <;> simp [hcode,h,Executes,Resolves,FailsEarly]

theorem exitLaw_refused {program : String} {why : Arguments.Refusal}
    (h : Arguments.read words = .refused program why) :
    P.ExitLaw words r (P.run words r).1 (P.run words r).2 := by
  obtain ⟨hcode,hlast⟩ := run_refused (P := P) (r := r) h
  constructor
  case early => exact fun _ => ⟨.inr hcode,hlast⟩
  all_goals simp [hcode,h,Executes,Resolves]

theorem exitLaw_unsettled {f : Settings.LoadFailure} (h : Arguments.read words = .run i lang)
    (hs : P.settings i = .error f) : P.ExitLaw words r (P.run words r).1 (P.run words r).2 := by
  obtain ⟨hcode,hlast⟩ := run_unsettled (r := r) h hs
  constructor
  case early => exact fun _ => ⟨.inl hcode,hlast⟩
  all_goals simp [hcode,h,hs,Executes,Resolves]

theorem exitLaw_executed (h : Arguments.read words = .run i lang) (hs : P.settings i = .ok s) :
    P.ExitLaw words r (P.run words r).1 (P.run words r).2 := by
  rcases he : P.execute (P.spoken words lang s) ⟨P.spoken words lang s,P.environment.styled⟩ i s r
    with ⟨answer,done⟩
  obtain ⟨hcode,hlast⟩ := run_executed h hs he
  have hexecutes (a : Option (Except Trail (List PassResult))) (d : Run σ) :
      P.Executes words r a d ↔ answer = a ∧ done = d := by
    simp [Executes,h,hs,he]
  have hresolves (a : Except Resolution.Failed MatrixSettings) :
      P.Resolves words a ↔ Resolution.resolve P.environment P.directory i s = a := by
    simp [Resolves,h,hs]
  rcases hm : Resolution.resolve P.environment P.directory i s with f | m
  · -- a reference cannot be resolved
    obtain ⟨rfl,rfl⟩ := Prod.mk.inj (he.symm.trans (execute_unresolved hm _ _ r))
    constructor
    case early => exact fun _ => ⟨.inl hcode,_,hlast⟩
    all_goals simp [hcode,codeOf,exitFailure,h,hs,hexecutes,hresolves,hm]
  · obtain ⟨hanswer,hdone,_,hmatrix⟩ := P.runPlan_course (P.spoken words lang s)
      ⟨P.spoken words lang s,P.environment.styled⟩ m.server
      (Variant.builtIn.map (Plan.configFor m)) r
    rw [← execute_resolved hm,he] at hanswer hdone
    rw [hdone,List.flatMap_def] at hlast
    simp only [List.append_assoc] at hlast
    constructor
    case early => simp [FailsEarly,h,hs,hresolves,hm]
    case begun =>
      intro _ _
      rw [hlast]
      exact ⟨_,_,(List.prefix_append_right_inj _).mpr (List.prefix_append _ _)⟩
    case completed =>
      intro results d hd
      obtain ⟨ha,-⟩ := (hexecutes _ _).mp hd
      have hend : launches (endingActs ⟨P.spoken words lang s,P.environment.styled⟩ answer ++
          errorActs (P.spoken words lang s) answer) = [] := by
        rw [launches_append,launches_endingActs,launches_errorActs,List.nil_append]
      exact ⟨m,_,_,_,(hresolves _).mpr hm,hlast,rfl,hend,
        hmatrix.completed (hanswer.symm.trans ha)⟩
    all_goals
      rcases answer with _ | (t | results) <;>
        simp [hcode,codeOf,exitSuccess,exitFailure,h,hs,hexecutes]

end Program
end MatrixHarness
