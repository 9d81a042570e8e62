import MatrixHarness.Proofs.History

/-! # Waiting for children

For each way to look after a child, the courses it can take: the acts, and the answer that they lead
to, `none` while the child is still waited for.  The functions take no other courses, whatever the
host answers. -/
namespace MatrixHarness
namespace Child

variable {σ : Type}

/-- The handle that an answer to the wait for a child leaves behind. -/
def left (pid : Pid) : Option (Except IoError WaitStatus) → Child
  | some (.ok status) => reaped status
  | _ => unreaped pid

/-- Waiting until a child has ended, with some patience.  The wait stays without an answer only if
the patience is used up, each time by a poll that found the child running. -/
inductive Awaited (pid : Pid) : Nat → List Act → Option (Except IoError WaitStatus) → Prop
  | pending : Awaited pid 0 [] none
  | failed (n : Nat) (e : IoError) : Awaited pid (n + 1) [.polled pid (.error e)] (some (.error e))
  | ended (n : Nat) (status : WaitStatus) :
    Awaited pid (n + 1) [.polled pid (.ok (some status))] (some (.ok status))
  | again {n : Nat} {acts : List Act} {answer : Option (Except IoError WaitStatus)} :
    Awaited pid n acts answer →
    Awaited pid (n + 1) (.polled pid (.ok none) :: .paused :: acts) answer

/-- Killing a child and giving up its handle.  The child is killed once more with the handle just if
the signal could not be sent. -/
inductive Killed (pid : Pid) (n : Nat) : List Act → Option (Except IoError WaitStatus) → Prop
  | refused (e : IoError) (again : Except IoError Unit) :
    Killed pid n [.signaled pid .kill (.error e),.signaled pid .kill again] (some (.error e))
  | sent {acts : List Act} {answer : Option (Except IoError WaitStatus)} :
    Awaited pid n acts answer → Killed pid n (.signaled pid .kill (.ok ()) :: acts) answer

/-- Waiting for a child that is killed when the run is cancelled.  A handle that is given up without
a status takes the child down with it. -/
inductive Watched (pid : Pid) : Nat → List Act → Option (Except IoError Waited) → Prop
  | pending : Watched pid 0 [] none
  | failed (n : Nat) (e : IoError) (answer : Except IoError Unit) :
    Watched pid (n + 1) [.polled pid (.error e),.signaled pid .kill answer] (some (.error e))
  | ended (n : Nat) (status : WaitStatus) :
    Watched pid (n + 1) [.polled pid (.ok (some status))] (some (.ok (.exited status)))
  | again {n : Nat} {acts : List Act} {answer : Option (Except IoError Waited)} :
    Watched pid n acts answer →
    Watched pid (n + 1) (.polled pid (.ok none) :: .looked false :: .paused :: acts) answer
  | killing {n : Nat} {acts : List Act} : Killed pid n acts none →
    Watched pid (n + 1) (.polled pid (.ok none) :: .looked true :: acts) none
  | notKilled {n : Nat} {acts : List Act} {e : IoError} : Killed pid n acts (some (.error e)) →
    Watched pid (n + 1) (.polled pid (.ok none) :: .looked true :: acts) (some (.error e))
  | killed {n : Nat} {acts : List Act} {status : WaitStatus} :
    Killed pid n acts (some (.ok status)) →
    Watched pid (n + 1) (.polled pid (.ok none) :: .looked true :: acts) (some (.ok .cancelled))

/-- Asking a child to terminate and waiting until it has ended. -/
inductive Terminated (pid : Pid) (n : Nat) : List Act → Option (Except IoError WaitStatus) → Prop
  | failed (e : IoError) : Terminated pid n [.polled pid (.error e)] (some (.error e))
  | ended (status : WaitStatus) :
    Terminated pid n [.polled pid (.ok (some status))] (some (.ok status))
  | refused (e : IoError) :
    Terminated pid n [.polled pid (.ok none),.signaled pid .term (.error e)] (some (.error e))
  | asked {acts : List Act} {answer : Option (Except IoError WaitStatus)} :
    Awaited pid n acts answer →
    Terminated pid n (.polled pid (.ok none) :: .signaled pid .term (.ok ()) :: acts) answer

inductive ShutDown (pid : Pid) (n : Nat) : List Act → Option (Except IoError WaitStatus) → Prop
  | pending {acts : List Act} : Terminated pid n acts none →
    ShutDown pid n (.shutdownBegun (unreaped pid) :: acts) none
  | failed {acts : List Act} {e : IoError} (answer : Except IoError Unit) :
    Terminated pid n acts (some (.error e)) →
    ShutDown pid n (.shutdownBegun (unreaped pid) :: acts ++
      [.signaled pid .kill answer,.shutdownEnded (unreaped pid) (.error e)]) (some (.error e))
  | ended {acts : List Act} {status : WaitStatus} : Terminated pid n acts (some (.ok status)) →
    ShutDown pid n (.shutdownBegun (unreaped pid) :: acts ++
      [.shutdownEnded (unreaped pid) (.ok status)]) (some (.ok status))

theorem tryWait_course (h : Host σ) (pid : Pid) (r : Run σ) :
    ∃ answer s, tryWait h (unreaped pid) r = (answer,
        match answer with
        | .ok (some status) => reaped status
        | _ => unreaped pid,s) ∧
      r.Continues [.polled pid answer] s := by
  obtain ⟨answer,s,heq,hs⟩ := r.continues_poll h pid
  refine ⟨answer,s,?_,hs⟩
  simp only [tryWait,heq]
  rcases answer with e | (_ | status) <;> rfl

theorem wait_course (h : Host σ) (patience : Nat) (pid : Pid) (r : Run σ) :
    ∃ acts answer next, wait h patience (unreaped pid) r = (answer,left pid answer,next) ∧
      Awaited pid patience acts answer ∧ r.Continues acts next := by
  induction patience generalizing r with
  | zero => exact ⟨[],none,r,rfl,.pending,.refl r⟩
  | succ patience ih =>
    obtain ⟨answer,s,heq,hp⟩ := tryWait_course h pid r
    simp only [wait,heq]
    rcases answer with e | (_ | status)
    · exact ⟨_,_,s,rfl,.failed patience e,hp⟩
    · obtain ⟨acts,answer,next,heq,hacts,hn⟩ := ih (s.pause h)
      exact ⟨_,answer,next,heq,.again hacts,hp.trans ((s.continues_pause h).trans hn)⟩
    · exact ⟨_,_,s,rfl,.ended patience status,hp⟩

theorem continues_drop (h : Host σ) (pid : Pid) (r : Run σ) :
    ∃ answer, r.Continues [.signaled pid .kill answer] (drop h (unreaped pid) r) := by
  obtain ⟨answer,s,heq,hs⟩ := r.continues_signal h pid .kill
  exact ⟨answer,by simpa only [drop,heq] using hs⟩

theorem kill_course (h : Host σ) (patience : Nat) (pid : Pid) (r : Run σ) :
    ∃ acts answer next, kill h patience (unreaped pid) r = (answer,next) ∧
      Killed pid patience acts answer ∧ r.Continues acts next := by
  obtain ⟨answer,s,heq,hs⟩ := r.continues_signal h pid .kill
  simp only [kill,heq]
  rcases answer with e | _
  · obtain ⟨again,hd⟩ := continues_drop h pid s
    exact ⟨_,_,_,rfl,.refused e again,hs.trans hd⟩
  · obtain ⟨acts,answer,next,heq,hacts,hn⟩ := wait_course h patience pid s
    simp only [heq]
    exact ⟨_,answer,next,rfl,.sent hacts,hs.trans hn⟩

theorem waitOrCancel_course (h : Host σ) (patience : Nat) (pid : Pid) (r : Run σ) :
    ∃ acts answer next, waitOrCancel h patience (unreaped pid) r = (answer,next) ∧
      Watched pid patience acts answer ∧ r.Continues acts next := by
  induction patience generalizing r with
  | zero => exact ⟨[],none,r,rfl,.pending,.refl r⟩
  | succ patience ih =>
    obtain ⟨answer,s,heq,hp⟩ := tryWait_course h pid r
    simp only [waitOrCancel,heq]
    rcases answer with e | (_ | status)
    · obtain ⟨answer,hd⟩ := continues_drop h pid s
      exact ⟨_,_,_,rfl,.failed patience e answer,hp.trans hd⟩
    · -- the child runs, so that it matters whether the run is cancelled
      obtain ⟨t,heq,hl⟩ := s.continues_look
      simp only [heq]
      rcases hc : s.cancelled
      · rw [hc] at hl
        obtain ⟨acts,answer,next,heq,hacts,hn⟩ := ih (t.pause h)
        exact ⟨_,answer,next,heq,.again hacts,
          hp.trans (hl.trans ((t.continues_pause h).trans hn))⟩
      · rw [hc] at hl
        obtain ⟨acts,answer,next,heq,hacts,hn⟩ := kill_course h patience pid t
        simp only [heq]
        rcases answer with _ | (e | status)
        · exact ⟨_,_,_,rfl,.killing hacts,hp.trans (hl.trans hn)⟩
        · exact ⟨_,_,_,rfl,.notKilled hacts,hp.trans (hl.trans hn)⟩
        · exact ⟨_,_,_,rfl,.killed hacts,hp.trans (hl.trans hn)⟩
    · exact ⟨_,_,s,rfl,.ended patience status,hp⟩

theorem terminate_course (h : Host σ) (patience : Nat) (pid : Pid) (r : Run σ) :
    ∃ acts answer next, terminate h patience (unreaped pid) r = (answer,left pid answer,next) ∧
      Terminated pid patience acts answer ∧ r.Continues acts next := by
  obtain ⟨answer,s,heq,hp⟩ := tryWait_course h pid r
  simp only [terminate,heq]
  rcases answer with e | (_ | status)
  · exact ⟨_,_,s,rfl,.failed e,hp⟩
  · obtain ⟨answer,t,heq,hs⟩ := s.continues_signal h pid .term
    simp only [requestTermination,id?,if_pos pid.inRange.2,heq]
    rcases answer with e | _
    · exact ⟨_,_,t,rfl,.refused e,hp.trans hs⟩
    · obtain ⟨acts,answer,next,heq,hacts,hn⟩ := wait_course h patience pid t
      exact ⟨_,answer,next,heq,.asked hacts,hp.trans (hs.trans hn)⟩
  · exact ⟨_,_,s,rfl,.ended status,hp⟩

theorem shutdown_course (h : Host σ) (patience : Nat) (pid : Pid) (r : Run σ) :
    ∃ acts answer next, shutdown h patience (unreaped pid) r = (answer,next) ∧
      ShutDown pid patience acts answer ∧ r.Continues acts next := by
  have hb := r.continues_note (.shutdownBegun (unreaped pid)) (by simp)
  obtain ⟨acts,answer,next,heq,hacts,hn⟩ :=
    terminate_course h patience pid (r.note (.shutdownBegun (unreaped pid)))
  simp only [shutdown,heq]
  rcases answer with _ | (e | status)
  · exact ⟨_,_,_,rfl,.pending hacts,hb.trans hn⟩
  · obtain ⟨answer,hd⟩ := continues_drop h pid next
    have he := (drop h (unreaped pid) next).continues_note
      (.shutdownEnded (unreaped pid) (.error e)) (by simp)
    exact ⟨_,_,_,rfl,.failed answer hacts,(hb.trans hn).trans (hd.trans he)⟩
  · have he := next.continues_note (.shutdownEnded (unreaped pid) (.ok status)) (by simp)
    exact ⟨_,_,_,rfl,.ended hacts,(hb.trans hn).trans he⟩

/-! ## The poll that answers -/

section answer

variable (h : Host σ) (pid : Pid)

/-- The run in front of a poll, when the child is only waited for. -/
def beforeWait : Nat → Run σ → Run σ
  | 0, r => r
  | k + 1, r => beforeWait k ((r.poll h pid).2.pause h)

def seenAt (r : Run σ) (k : Nat) : Except IoError (Option WaitStatus) :=
  ((beforeWait h pid k r).poll h pid).1

variable {h pid} {r : Run σ} {patience : Nat}

theorem seenAt_succ (k : Nat) :
    seenAt h pid r (k + 1) = seenAt h pid ((r.poll h pid).2.pause h) k := rfl

theorem wait_succ : (wait h (patience + 1) (unreaped pid) r).1 = match seenAt h pid r 0 with
    | .error e => some (.error e)
    | .ok (some status) => some (.ok status)
    | .ok none => (wait h patience (unreaped pid) ((r.poll h pid).2.pause h)).1 := by
  obtain ⟨answer,s,hpoll,-⟩ := r.continues_poll h pid
  rcases answer with e | (_ | status) <;> simp [wait,tryWait,seenAt,beforeWait,hpoll]

/-- The wait has an answer exactly if some poll within the patience does not find the child running,
and it is that of the first such poll. -/
theorem wait_some_iff {answer : Except IoError WaitStatus} :
    (wait h patience (unreaped pid) r).1 = some answer ↔
      ∃ k < patience, seenAt h pid r k = answer.map some ∧
        ∀ j < k, seenAt h pid r j = .ok none := by
  induction patience generalizing r with
  | zero => simp [wait]
  | succ patience ih =>
    rw [wait_succ,Nat.exists_lt_succ_left]
    simp only [Nat.forall_lt_succ_left,seenAt_succ]
    rcases seenAt h pid r 0 with e | (_ | status)
    · cases answer <;> simp [Except.map]
    · rw [ih]
      cases answer <;> simp [Except.map]
    · cases answer <;> simp [Except.map]

theorem wait_none_iff :
    (wait h patience (unreaped pid) r).1 = none ↔ ∀ k < patience, seenAt h pid r k = .ok none := by
  induction patience generalizing r with
  | zero => simp [wait]
  | succ patience ih =>
    rw [wait_succ,Nat.forall_lt_succ_left]
    simp only [seenAt_succ]
    rcases seenAt h pid r 0 with e | (_ | status)
    · simp
    · simp [ih]
    · simp

/-- A child that can be asked to terminate gives its status if the first poll finds it ended, or if
one within the patience does that is behind the signal. -/
theorem terminate_status_iff {status : WaitStatus} :
    (terminate h patience (unreaped pid) r).1 = some (.ok status) ↔
      (r.poll h pid).1 = .ok (some status) ∨ (r.poll h pid).1 = .ok none ∧
        ∃ s, (r.poll h pid).2.signal h pid .term = (.ok (),s) ∧
          ∃ k < patience, seenAt h pid s k = .ok (some status) ∧
            ∀ j < k, seenAt h pid s j = .ok none := by
  rcases hpoll : r.poll h pid with ⟨e | (_ | found),s⟩
  · simp [terminate,tryWait,hpoll]
  · rcases hsent : s.signal h pid .term with ⟨e | _,t⟩
    · simp [terminate,tryWait,hpoll,requestTermination,id?,if_pos pid.inRange.2,hsent]
    · simp [terminate,tryWait,hpoll,requestTermination,id?,if_pos pid.inRange.2,hsent,wait_some_iff,
        Except.map]
  · simp [terminate,tryWait,hpoll]

end answer

end Child
end MatrixHarness
