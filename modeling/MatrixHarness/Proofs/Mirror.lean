import MatrixHarness.Matrix

/-! # Mirrored runs

One host mirrors another under a map of runs if each single call commutes with the map.  Then so
does all that is built of such calls, up to a whole matrix: the answers are the same, and the runs
are mapped to one another. -/
namespace MatrixHarness

variable {σ τ : Type}

/-- Every call on one host is the image of the same call on the other. -/
structure Mirrors (h : Host σ) (k : Host τ) (f : Run σ → Run τ) : Prop where
  spawn : ∀ role cl r, (f r).spawn k role cl = (r.spawn h role cl).map id f
  poll : ∀ pid r, (f r).poll k pid = (r.poll h pid).map id f
  signal : ∀ pid s r, (f r).signal k pid s = (r.signal h pid s).map id f
  pause : ∀ r, (f r).pause k = f (r.pause h)
  hear : ∀ n r, (f r).hear k n = f (r.hear h n)
  print : ∀ p r, (f r).print k p = f (r.print h p)
  note : ∀ a r, (f r).note a = f (r.note a)
  cancelled : ∀ r, (f r).cancelled = r.cancelled
  now : ∀ r, k.now (f r).world = h.now r.world

namespace Mirrors

variable {h : Host σ} {k : Host τ} {f : Run σ → Run τ} (m : Mirrors h k f)
include m

theorem printAll (ps : List (Stream × String)) (r : Run σ) :
    (f r).printAll k ps = f (r.printAll h ps) := by
  induction ps generalizing r with
  | nil => rfl
  | cons p ps ih =>
    have hrest := ih (r.print h p)
    rw [← m.print] at hrest
    exact hrest

theorem look (r : Run σ) : (f r).look = r.look.map id f := by
  simp [Run.look,m.cancelled,m.note]

theorem tryWait (c : Child) (r : Run σ) :
    c.tryWait k (f r) = (c.tryWait h r).map id (Prod.map id f) := by
  rcases c with pid | status
  · rcases hp : r.poll h pid with ⟨e | (_ | status),s⟩ <;> simp [Child.tryWait,m.poll,hp]
  · rfl

theorem wait (patience : Nat) (c : Child) (r : Run σ) :
    Child.wait k patience c (f r) = (Child.wait h patience c r).map id (Prod.map id f) := by
  induction patience generalizing c r with
  | zero => rfl
  | succ patience ih =>
    rcases hw : c.tryWait h r with ⟨e | (_ | status),c,s⟩ <;>
      simp [Child.wait,m.tryWait,hw,m.pause,ih]

theorem drop (c : Child) (r : Run σ) : c.drop k (f r) = f (c.drop h r) := by
  rcases c with pid | status
  · simp [Child.drop,m.signal]
  · rfl

theorem kill (patience : Nat) (c : Child) (r : Run σ) :
    c.kill k patience (f r) = (c.kill h patience r).map id f := by
  rcases c with pid | status
  · rcases hs : r.signal h pid .kill with ⟨e | _,s⟩ <;>
      simp [Child.kill,m.signal,hs,m.drop,m.wait]
  · rfl

theorem waitOrCancel (patience : Nat) (c : Child) (r : Run σ) :
    Child.waitOrCancel k patience c (f r) = (Child.waitOrCancel h patience c r).map id f := by
  induction patience generalizing c r with
  | zero => rfl
  | succ patience ih =>
    rcases hw : c.tryWait h r with ⟨e | (_ | status),c,s⟩
    · simp [Child.waitOrCancel,m.tryWait,hw,m.drop]
    · rcases hl : s.look with ⟨_ | _,t⟩
      · simp [Child.waitOrCancel,m.tryWait,hw,m.look,hl,m.pause,ih]
      · simp [Child.waitOrCancel,m.tryWait,hw,m.look,hl,m.kill]
    · simp [Child.waitOrCancel,m.tryWait,hw]

theorem requestTermination (c : Child) (r : Run σ) :
    c.requestTermination k (f r) = (c.requestTermination h r).map id f := by
  rcases c with pid | status
  · simp only [Child.requestTermination,Child.id?,if_pos pid.inRange.2,m.signal]
  · rfl

theorem terminate (patience : Nat) (c : Child) (r : Run σ) :
    c.terminate k patience (f r) = (c.terminate h patience r).map id (Prod.map id f) := by
  rcases hw : c.tryWait h r with ⟨e | (_ | status),c,s⟩
  · simp [Child.terminate,m.tryWait,hw]
  · rcases hq : c.requestTermination h s with ⟨e | _,t⟩ <;>
      simp [Child.terminate,m.tryWait,hw,m.requestTermination,hq,m.wait]
  · simp [Child.terminate,m.tryWait,hw]

theorem shutdown (patience : Nat) (c : Child) (r : Run σ) :
    c.shutdown k patience (f r) = (c.shutdown h patience r).map id f := by
  rcases ht : c.terminate h patience (r.note (.shutdownBegun c)) with ⟨_ | answer,left,s⟩ <;>
    simp [Child.shutdown,m.note,m.terminate,ht,m.drop]

end Mirrors

structure Harness.Mirrors (H : Harness σ) (K : Harness τ) (f : Run σ → Run τ) : Prop where
  host : MatrixHarness.Mirrors H.host K.host f
  locale : K.locale = H.locale
  listener : K.listener = H.listener
  patience : K.patience = H.patience

namespace Harness.Mirrors

variable {H : Harness σ} {K : Harness τ} {f : Run σ → Run τ} (m : H.Mirrors K f)
include m

theorem notify (n : Notice) (r : Run σ) : K.notify n (f r) = f (H.notify n r) := by
  simp [Harness.notify,m.host.hear,m.host.printAll,m.listener]

theorem enter (config : PassConfig) (state : PassState) (r : Run σ) :
    K.enter config state (f r) = f (H.enter config state r) := m.notify _ r

theorem judge (config : PassConfig) (w : Waited) (r : Run σ) :
    K.judge config w (f r) = (H.judge config w r).map id f := by
  rcases w with status | _
  · by_cases hs : status.success = true <;> simp [Harness.judge,hs,m.enter]
  · simp [Harness.judge,m.enter]

theorem runTest (config : PassConfig) (r : Run σ) :
    K.runTest config (f r) = (H.runTest config r).map id f := by
  rcases hs : (H.enter config .testRunning r).spawn H.host .testRunner
    config.testRunnerCommandLine with ⟨e | pid,s⟩
  · simp [Harness.runTest,m.enter,m.host.spawn,hs,m.locale]
  · rcases hw : Child.waitOrCancel H.host H.patience (.unreaped pid) s with ⟨_ | (e | w),t⟩ <;>
      simp [Harness.runTest,m.enter,m.host.spawn,hs,m.locale,m.patience,m.host.waitOrCancel,hw,
        m.judge]

theorem conclude (config : PassConfig) (outcome : Except Trail Unit)
    (stopped : Except IoError WaitStatus) (start : Duration) (r : Run σ) :
    K.conclude config outcome stopped start (f r) =
      (H.conclude config outcome stopped start r).map id f := by
  simp only [Harness.conclude,m.host.now,m.locale]
  rcases Pass.settle H.locale config outcome stopped
    ⟨(H.host.now r.world).nanoseconds - start.nanoseconds⟩ with ⟨result,_ | e⟩ <;>
    simp [m.notify]

theorem stop (config : PassConfig) (server : Child) (outcome : Except Trail Unit)
    (start : Duration) (r : Run σ) :
    K.stop config server outcome start (f r) =
      (H.stop config server outcome start r).map id f := by
  rcases hs : server.shutdown H.host H.patience (H.enter config .serverStopping r) with
    ⟨_ | (e | status),s⟩ <;>
    simp [Harness.stop,m.enter,m.patience,m.host.shutdown,hs,m.conclude]

theorem runPass (config : PassConfig) (r : Run σ) :
    K.runPass config (f r) = (H.runPass config r).map id f := by
  rcases hl : (H.enter config .notStarted r).look with ⟨_ | _,s⟩
  · rcases hs : (H.enter config .serverStarting s).spawn H.host .server
      config.serverCommandLine with ⟨e | pid,t⟩
    · simp [Harness.runPass,m.enter,m.host.look,hl,m.host.spawn,hs,m.locale]
    · rcases ht : H.runTest config (H.enter config .serverRunning t) with ⟨_ | outcome,u⟩ <;>
        simp [Harness.runPass,m.enter,m.host.look,hl,m.host.spawn,hs,m.runTest,ht,m.stop,
          m.host.now]
  · simp [Harness.runPass,m.enter,m.host.look,hl]

/-- A whole matrix has the same result on both hosts. -/
theorem runAll (configs : List PassConfig) (r : Run σ) :
    K.runAll configs (f r) = (H.runAll configs r).map id f := by
  induction configs generalizing r with
  | nil => rfl
  | cons config configs ih =>
    rcases hp : H.runPass config r with ⟨_ | (t | result),s⟩
    · simp [Harness.runAll,m.runPass,hp]
    · simp [Harness.runAll,m.runPass,hp]
    · rcases ha : H.runAll configs s with ⟨_ | (t | results),last⟩ <;>
        simp [Harness.runAll,m.runPass,hp,ih,ha]

end Harness.Mirrors
end MatrixHarness
