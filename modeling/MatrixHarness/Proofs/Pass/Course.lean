import MatrixHarness.Proofs.Child.Waiting

/-! # Courses of a pass

All the courses that a pass can take: what is done in it, and how it comes to an end.  A pass takes
one of them, and its result is the one that this end has. -/
namespace MatrixHarness

inductive TestEnd where
  | notStarted (e : IoError)
  /-- It could not be waited for, or not be killed. -/
  | notAwaited (e : IoError)
  | ended (w : Waited)

inductive PassEnd where
  /-- The run was cancelled before anything was started. -/
  | interrupted
  | serverNotStarted (e : IoError)
  /-- The server was started and stopped, the latter with this answer. -/
  | served (test : TestEnd) (stopped : Except IoError WaitStatus)

namespace Waited

/-- A test is passed if the test-runner ends by itself and with success. -/
def passed : Waited → Bool
  | exited status => status.success
  | cancelled => false

def state (w : Waited) : PassState := if w.passed then .testPassed else .testFailed

end Waited

namespace TestEnd

def passed : TestEnd → Bool
  | ended w => w.passed
  | _ => false

def states : TestEnd → List PassState
  | ended w => [w.state]
  | _ => []

def outcome (locale : String) (config : PassConfig) : TestEnd → Except Trail Unit
  | notStarted e => .error
    (Pass.failedBy locale config .spawn (.testRunnerNotStarted config.testRunner.lossy) e)
  | notAwaited e => .error (Pass.failedBy locale config .fault .testRunnerNotAwaited e)
  | ended (.exited status) =>
    if status.success then .ok () else .error (Pass.failed config .testFailed (some status))
  | ended .cancelled => .error (Pass.failed config .interrupted none)

theorem passed_iff (locale : String) (config : PassConfig) (t : TestEnd) :
    t.passed = true ↔ t.outcome locale config = .ok () := by
  rcases t with e | e | (status | _) <;> simp [passed,Waited.passed,outcome]

end TestEnd

/-- A failed test is the failure of its pass, however the server was stopped. -/
theorem Pass.settle_error (locale : String) (config : PassConfig) (t : Trail)
    (s : Except IoError WaitStatus) (duration : Duration) :
    (Pass.settle locale config (.error t) s duration).1 = .error t := by
  rcases s with e | status <;> rfl

namespace PassEnd

def result (locale : String) (config : PassConfig) (duration : Duration) :
    PassEnd → Except Trail PassResult
  | interrupted => .error (Pass.failed config .interrupted none)
  | serverNotStarted e => .error
    (Pass.failedBy locale config .spawn (.serverNotStarted config.server.lossy) e)
  | served test stopped =>
    (Pass.settle locale config (test.outcome locale config) stopped duration).1

/-- A pass succeeds only by a test-runner that ends with success and a server that stops. -/
theorem result_ok {locale : String} {config : PassConfig} {duration : Duration} {p : PassEnd} :
    (∃ result, p.result locale config duration = .ok result) ↔
      ∃ status stopped, p = .served (.ended (.exited status)) (.ok stopped) ∧
        status.success = true := by
  rcases p with _ | e | ⟨e | e | (status | _),s⟩
  case served.ended.exited =>
    rcases hs : status.success <;> rcases s with e | stopped <;>
      simp [result,TestEnd.outcome,Pass.settle,hs]
  all_goals simp [result,TestEnd.outcome,Pass.settle_error]

end PassEnd

namespace Harness

variable {σ : Type}

inductive TestCourse (H : Harness σ) (config : PassConfig) : List Act → Option TestEnd → Prop
  | notStarted (e : IoError) :
    TestCourse H config (H.enterActs config .testRunning ++
      [.spawned .testRunner config.testRunnerCommandLine (.error e)]) (some (.notStarted e))
  | pending {pid : Pid} {wait : List Act} : Child.Watched pid H.patience wait none →
    TestCourse H config (H.enterActs config .testRunning ++
      .spawned .testRunner config.testRunnerCommandLine (.ok pid) :: wait) none
  | notAwaited {pid : Pid} {wait : List Act} {e : IoError} :
    Child.Watched pid H.patience wait (some (.error e)) →
    TestCourse H config (H.enterActs config .testRunning ++
      .spawned .testRunner config.testRunnerCommandLine (.ok pid) :: wait) (some (.notAwaited e))
  | ended {pid : Pid} {wait : List Act} {w : Waited} :
    Child.Watched pid H.patience wait (some (.ok w)) →
    TestCourse H config (H.enterActs config .testRunning ++
      .spawned .testRunner config.testRunnerCommandLine (.ok pid) ::
        (wait ++ H.enterActs config w.state)) (some (.ended w))

def servingActs (H : Harness σ) (config : PassConfig) (pid : Pid) : List Act :=
  H.enterActs config .notStarted ++ .looked false :: (H.enterActs config .serverStarting ++
    .spawned .server config.serverCommandLine (.ok pid) :: H.enterActs config .serverRunning)

/-- What is told behind the end of a server: that it stopped, or else its error, unless the result
of the pass tells that. -/
def closingActs (H : Harness σ) (config : PassConfig) (test : TestEnd) :
    Except IoError WaitStatus → List Act
  | .ok _ => H.enterActs config .serverStopped
  | .error e => if test.passed then [] else H.noticeActs (.cleanupFailed config e)

inductive PassCourse (H : Harness σ) (config : PassConfig) : List Act → Option PassEnd → Prop
  | interrupted :
    PassCourse H config (H.enterActs config .notStarted ++ [.looked true]) (some .interrupted)
  | serverNotStarted (e : IoError) :
    PassCourse H config (H.enterActs config .notStarted ++ .looked false ::
        (H.enterActs config .serverStarting ++
          [.spawned .server config.serverCommandLine (.error e)]))
      (some (.serverNotStarted e))
  | testing {pid : Pid} {test : List Act} : TestCourse H config test none →
    PassCourse H config (H.servingActs config pid ++ test) none
  | stopping {pid : Pid} {test stop : List Act} {t : TestEnd} :
    TestCourse H config test (some t) → Child.ShutDown pid H.patience stop none →
    PassCourse H config
      (H.servingActs config pid ++ (test ++ (H.enterActs config .serverStopping ++ stop))) none
  | served {pid : Pid} {test stop : List Act} {t : TestEnd} {s : Except IoError WaitStatus} :
    TestCourse H config test (some t) → Child.ShutDown pid H.patience stop (some s) →
    PassCourse H config (H.servingActs config pid ++ (test ++ (H.enterActs config .serverStopping ++
      (stop ++ H.closingActs config t s)))) (some (.served t s))

theorem judge_course (H : Harness σ) (config : PassConfig) (w : Waited) (r : Run σ) :
    H.judge config w r =
      ((TestEnd.ended w).outcome H.locale config,H.enter config w.state r) := by
  rcases w with status | _
  · by_cases hs : status.success = true <;>
      simp [judge,TestEnd.outcome,Waited.state,Waited.passed,hs]
  · rfl

theorem runTest_course (H : Harness σ) (config : PassConfig) (r : Run σ) :
    ∃ acts test next, H.runTest config r = (test.map (TestEnd.outcome H.locale config),next) ∧
      H.TestCourse config acts test ∧ r.Continues acts next := by
  have he := H.continues_enter config .testRunning r
  obtain ⟨answer,s,heq,hs⟩ := (H.enter config .testRunning r).continues_spawn H.host .testRunner
    config.testRunnerCommandLine
  simp only [runTest,heq]
  rcases answer with e | pid
  · exact ⟨_,_,_,rfl,.notStarted e,he.trans hs⟩
  · obtain ⟨wait,answer,t,heq,hw,ht⟩ := Child.waitOrCancel_course H.host H.patience pid s
    simp only [heq]
    rcases answer with _ | (e | w)
    · exact ⟨_,none,_,rfl,.pending hw,he.trans (hs.trans ht)⟩
    · exact ⟨_,_,_,rfl,.notAwaited hw,he.trans (hs.trans ht)⟩
    · have hj := H.continues_enter config w.state t
      simp only [judge_course]
      exact ⟨_,some (.ended w),_,rfl,.ended hw,he.trans (hs.trans (ht.trans hj))⟩

theorem conclude_course (H : Harness σ) (config : PassConfig) (test : TestEnd)
    (s : Except IoError WaitStatus) (start : Duration) (r : Run σ) :
    ∃ duration next, H.conclude config (test.outcome H.locale config) s start r =
        ((PassEnd.served test s).result H.locale config duration,next) ∧
      r.Continues
        (match s with
        | .ok _ => []
        | .error _ => H.closingActs config test s) next := by
  have hp := test.passed_iff H.locale config
  simp only [conclude,PassEnd.result]
  rcases ho : test.outcome H.locale config with t | _ <;> rw [ho] at hp <;>
    rcases s with e | status
  · have hf : test.passed = false := by simpa using hp
    exact ⟨default,_,rfl,
      by simpa [closingActs,hf] using H.continues_notify (.cleanupFailed config e) r⟩
  · exact ⟨default,_,rfl,.refl r⟩
  · have ht : test.passed = true := hp.mpr rfl
    exact ⟨default,_,rfl,by simpa [closingActs,ht] using Run.Continues.refl r⟩
  · exact ⟨_,_,rfl,.refl r⟩

theorem stop_course (H : Harness σ) (config : PassConfig) (pid : Pid) (test : TestEnd)
    (start : Duration) (r : Run σ) :
    ∃ stop answer duration next,
      H.stop config (.unreaped pid) (test.outcome H.locale config) start r =
        (answer.map fun s => (PassEnd.served test s).result H.locale config duration,next) ∧
      Child.ShutDown pid H.patience stop answer ∧
      r.Continues (H.enterActs config .serverStopping ++ (stop ++
        match answer with
        | none => []
        | some s => H.closingActs config test s)) next := by
  have he := H.continues_enter config .serverStopping r
  obtain ⟨stop,answer,s,heq,hstop,hs⟩ := Child.shutdown_course H.host H.patience pid
    (H.enter config .serverStopping r)
  simp only [Harness.stop,heq]
  rcases answer with _ | (e | status)
  · exact ⟨stop,none,default,s,rfl,hstop,by simpa using he.trans hs⟩
  · obtain ⟨duration,next,hc,hn⟩ := H.conclude_course config test (.error e) start s
    simp only [hc]
    exact ⟨stop,_,duration,next,rfl,hstop,he.trans (hs.trans hn)⟩
  · obtain ⟨duration,next,hc,hn⟩ := H.conclude_course config test (.ok status) start
      (H.enter config .serverStopped s)
    have ht := H.continues_enter config .serverStopped s
    simp only [hc]
    exact ⟨stop,_,duration,next,rfl,hstop,
      by simpa [closingActs] using he.trans (hs.trans (ht.trans hn))⟩

/-- A pass takes one of its courses, and has the result of its end.  It takes the shortest one if
the run is cancelled where the pass looks first. -/
theorem runPass_course (H : Harness σ) (config : PassConfig) (r : Run σ) :
    ∃ acts finish duration next,
      H.runPass config r = (finish.map (PassEnd.result H.locale config duration),next) ∧
      H.PassCourse config acts finish ∧ r.Continues acts next ∧
      ((H.enter config .notStarted r).cancelled = true ↔ finish = some .interrupted) := by
  have h₀ := H.continues_enter config .notStarted r
  obtain ⟨s,heq,hl⟩ := (H.enter config .notStarted r).continues_look
  simp only [runPass,heq]
  rcases hc : (H.enter config .notStarted r).cancelled <;> rw [hc] at hl
  · have h₁ := H.continues_enter config .serverStarting s
    obtain ⟨answer,t,heq,ht⟩ := (H.enter config .serverStarting s).continues_spawn H.host .server
      config.serverCommandLine
    simp only [heq]
    rcases answer with e | pid
    · exact ⟨_,_,default,_,rfl,.serverNotStarted e,h₀.trans (hl.trans (h₁.trans ht)),by simp⟩
    · have h₂ := H.continues_enter config .serverRunning t
      obtain ⟨test,end?,u,heq,htest,hu⟩ := H.runTest_course config (H.enter config .serverRunning t)
      have hserving : r.Continues (H.servingActs config pid) (H.enter config .serverRunning t) :=
        h₀.trans (hl.trans (h₁.trans (ht.trans h₂)))
      simp only [heq]
      rcases end? with _ | e
      · exact ⟨_,none,default,_,rfl,.testing htest,hserving.trans hu,by simp⟩
      · obtain ⟨stop,answer,duration,next,hstop,hd,hn⟩ := H.stop_course config pid e
          (H.host.now s.world) u
        refine ⟨_,answer.map (.served e),duration,next,?_,?_,hserving.trans (hu.trans hn),by simp⟩
        · simpa [Option.map_map,Function.comp_def] using hstop
        · rcases answer with _ | a
          · simpa using PassCourse.stopping htest hd
          · exact .served htest hd
  · exact ⟨_,_,default,_,rfl,.interrupted,h₀.trans hl,by simp⟩

end Harness
end MatrixHarness
