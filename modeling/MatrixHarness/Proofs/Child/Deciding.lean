import MatrixHarness.Proofs.Child.Traces

/-! # To wait or to cancel

What the wait for a child that is killed when the run is cancelled makes of each course of the
world.  The world is followed poll by poll, as it goes on while nothing is decided; the first poll
that finds the child ended, or the run cancelled, decides.  Whatever is decided, no child is left
behind. -/
namespace MatrixHarness.Child

open Acts

variable {σ : Type} (h : Host σ) (pid : Pid)

/-- The run behind a poll at which nothing is decided. -/
def round (r : Run σ) : Run σ := ((r.poll h pid).2.look.2).pause h

/-- The run in front of a poll, if nothing is decided at any earlier one. -/
def beforePoll : Nat → Run σ → Run σ
  | 0, r => r
  | k + 1, r => beforePoll k (round h pid r)

def foundAt (r : Run σ) (k : Nat) : Except IoError (Option WaitStatus) :=
  ((beforePoll h pid k r).poll h pid).1

/-- The run is cancelled where it is looked at behind a poll. -/
def cancelledAt (r : Run σ) (k : Nat) : Bool := ((beforePoll h pid k r).poll h pid).2.cancelled

/-- At a poll the child runs, and the run is not cancelled. -/
def UndecidedAt (r : Run σ) (k : Nat) : Prop :=
  foundAt h pid r k = .ok none ∧ cancelledAt h pid r k = false

/-- No child is left behind by acts that lead to an answer.  A child that ended by itself was
reaped, and no signal was sent; one that was killed was reaped behind the signal; and where there is
an error the child was not reaped, and the last signal was to take it down: at the very end with the
handle, or before a wait that then failed. -/
def NoneLeft (acts : List Act) : Option (Except IoError Waited) → Prop
  | none => reapings acts = []
  | some (.ok (.exited status)) => reapings acts = [(pid,status)] ∧ signals acts = []
  | some (.ok .cancelled) => ∃ before after status,
    acts = before ++ .signaled pid .kill (.ok ()) :: after ∧ signals before = [] ∧
      reapings before = [] ∧ signals after = [] ∧ reapings after = [(pid,status)]
  | some (.error _) => reapings acts = [] ∧
    ∃ before sent after, acts = before ++ .signaled pid .kill sent :: after ∧
      signals after = [] ∧ (after = [] ∨ sent = .ok ())

/-! ## What is left behind -/

section

variable {pid}

theorem NoneLeft.append {acts : List Act} {answer : Option (Except IoError Waited)}
    (hn : NoneLeft pid acts answer) (quiet : List Act) (hr : reapings quiet = [])
    (hs : signals quiet = []) : NoneLeft pid (quiet ++ acts) answer := by
  rcases answer with _ | (e | (status | _))
  · simpa [NoneLeft,hr] using hn
  · obtain ⟨hreap,before,sent,after,rfl,hafter,hsent⟩ := hn
    exact ⟨by simpa [hr] using hreap,quiet ++ before,sent,after,by simp,hafter,hsent⟩
  · simpa [NoneLeft,hr,hs] using hn
  · obtain ⟨before,after,status,rfl,hb,hrb,ha,hra⟩ := hn
    exact ⟨quiet ++ before,after,status,by simp,by simp [hs,hb],by simp [hr,hrb],ha,hra⟩

theorem Watched.noneLeft {n : Nat} {acts : List Act} {answer : Option (Except IoError Waited)}
    (hw : Watched pid n acts answer) : NoneLeft pid acts answer := by
  induction hw with
  | pending => rfl
  | failed n e sent => exact ⟨rfl,[.polled pid (.error e)],sent,[],rfl,rfl,.inl rfl⟩
  | ended n status => exact ⟨rfl,rfl⟩
  | again _ ih =>
    exact ih.append [.polled pid (.ok none),.looked false,.paused] rfl rfl
  | @killing n acts hk =>
    have hacts : NoneLeft pid acts none := hk.reapings
    exact hacts.append [.polled pid (.ok none),.looked true] rfl rfl
  | @notKilled n acts e hk =>
    have hacts : NoneLeft pid acts (some (.error e)) := by
      refine ⟨hk.reapings,?_⟩
      obtain ⟨sent,after,rfl,-,⟨hsent,hs⟩ | ⟨again,e,rfl,-⟩⟩ := hk.sent_then_reaped
      · exact ⟨[],sent,after,rfl,hs,.inr hsent⟩
      · exact ⟨[.signaled pid .kill sent],again,[],rfl,rfl,.inl rfl⟩
    exact hacts.append [.polled pid (.ok none),.looked true] rfl rfl
  | @killed n acts status hk =>
    obtain ⟨sent,after,rfl,hr,⟨rfl,hs⟩ | ⟨again,e,-,he⟩⟩ := hk.sent_then_reaped
    · exact ⟨[.polled pid (.ok none),.looked true],after,status,rfl,rfl,rfl,hs,hr⟩
    · simp at he

end

/-! ## The poll that decides -/

/-- How the wait comes to its answer: nothing was decided at any poll, or some poll was the first to
decide. -/
inductive Decided (r : Run σ) (patience : Nat) : Option (Except IoError Waited) → Prop
  | pending : (∀ k < patience, UndecidedAt h pid r k) → Decided r patience none
  | failed {k : Nat} {e : IoError} : k < patience → (∀ j < k, UndecidedAt h pid r j) →
    foundAt h pid r k = .error e → Decided r patience (some (.error e))
  | exited {k : Nat} {status : WaitStatus} : k < patience → (∀ j < k, UndecidedAt h pid r j) →
    foundAt h pid r k = .ok (some status) → Decided r patience (some (.ok (.exited status)))
  | cancelled {k : Nat} {answer : Option (Except IoError Waited)} : k < patience →
    (∀ j < k, UndecidedAt h pid r j) → foundAt h pid r k = .ok none →
    cancelledAt h pid r k = true → (∀ status, answer ≠ some (.ok (.exited status))) →
    Decided r patience answer

variable {h pid} {r : Run σ} {patience : Nat} {answer : Option (Except IoError Waited)}

theorem undecided_succ {k : Nat} (hnow : UndecidedAt h pid r 0)
    (hk : ∀ j < k, UndecidedAt h pid (round h pid r) j) : ∀ j < k + 1, UndecidedAt h pid r j := by
  intro j hj
  cases j with
  | zero => exact hnow
  | succ j => exact hk j (Nat.lt_of_succ_lt_succ hj)

/-- What is not decided now is decided by the world as it goes on. -/
theorem Decided.later (hnow : UndecidedAt h pid r 0)
    (hd : Decided h pid (round h pid r) patience answer) :
    Decided h pid r (patience + 1) answer := by
  cases hd with
  | pending hk => exact .pending (undecided_succ hnow hk)
  | failed hlt hk hfound => exact .failed (Nat.succ_lt_succ hlt) (undecided_succ hnow hk) hfound
  | exited hlt hk hfound => exact .exited (Nat.succ_lt_succ hlt) (undecided_succ hnow hk) hfound
  | cancelled hlt hk hfound hc hne =>
    exact .cancelled (Nat.succ_lt_succ hlt) (undecided_succ hnow hk) hfound hc hne

theorem waitOrCancel_decided (patience : Nat) (r : Run σ) :
    Decided h pid r patience (waitOrCancel h patience (unreaped pid) r).1 := by
  induction patience generalizing r with
  | zero => exact .pending (by simp)
  | succ patience ih =>
    have hearlier : ∀ j < 0, UndecidedAt h pid r j := by simp
    rcases hpoll : r.poll h pid with ⟨e | (_ | status),s⟩
    · have hfound : foundAt h pid r 0 = .error e := congrArg Prod.fst hpoll
      simp only [waitOrCancel,tryWait,hpoll]
      exact .failed (Nat.succ_pos patience) hearlier hfound
    · have hfound : foundAt h pid r 0 = .ok none := congrArg Prod.fst hpoll
      have hlook : cancelledAt h pid r 0 = s.cancelled :=
        congrArg (fun p => Run.cancelled p.2) hpoll
      simp only [waitOrCancel,tryWait,hpoll]
      rcases hc : s.cancelled
      · have hround : round h pid r = (s.note (.looked false)).pause h := by
          simp [round,hpoll,Run.look,hc]
        simp only [Run.look,hc]
        rw [← hround]
        exact .later ⟨hfound,hlook.trans hc⟩ (ih (round h pid r))
      · simp only [Run.look,hc]
        rcases kill h patience (unreaped pid) (s.note (.looked true)) with ⟨_ | (e | status),t⟩ <;>
          exact .cancelled (Nat.succ_pos patience) hearlier hfound (hlook.trans hc)
            (by simp [Except.map])
    · have hfound : foundAt h pid r 0 = .ok (some status) := congrArg Prod.fst hpoll
      simp only [waitOrCancel,tryWait,hpoll]
      exact .exited (Nat.succ_pos patience) hearlier hfound

/-- At most one poll is the first to decide. -/
theorem first_unique {k l : Nat} (hk : ∀ j < k, UndecidedAt h pid r j)
    (hk' : ¬UndecidedAt h pid r k)
    (hl : ∀ j < l, UndecidedAt h pid r j) (hl' : ¬UndecidedAt h pid r l) : k = l := by
  rcases Nat.lt_trichotomy k l with hlt | rfl | hlt
  · exact absurd (hl k hlt) hk'
  · rfl
  · exact absurd (hk l hlt) hl'

theorem Decided.of_found (hd : Decided h pid r patience answer) {k : Nat} {status : WaitStatus}
    (hlt : k < patience) (hk : ∀ j < k, UndecidedAt h pid r j)
    (hfound : foundAt h pid r k = .ok (some status)) : answer = some (.ok (.exited status)) := by
  have hdecides {l : Nat} (hl : foundAt h pid r l ≠ .ok none) : ¬UndecidedAt h pid r l :=
    fun hu => hl hu.1
  have hsame {l : Nat} (hl : ∀ j < l, UndecidedAt h pid r j) (hl' : ¬UndecidedAt h pid r l) :
      k = l := first_unique hk (hdecides (by simp [hfound])) hl hl'
  cases hd with
  | pending hall => exact absurd (hall k hlt) (hdecides (by simp [hfound]))
  | failed _ hl hother =>
    obtain rfl := hsame hl (hdecides (by simp [hother]))
    simp [hother] at hfound
  | exited _ hl hother =>
    obtain rfl := hsame hl (hdecides (by simp [hother]))
    obtain rfl : _ = status := by simpa [hother] using hfound
    rfl
  | cancelled _ hl hother hc =>
    obtain rfl := hsame hl fun hu => by simp [hu.2] at hc
    simp [hother] at hfound

theorem waitOrCancel_pending (hk : ∀ k < patience, UndecidedAt h pid r k) :
    ∃ acts next, waitOrCancel h patience (unreaped pid) r = (none,next) ∧ r.Continues acts next ∧
      signals acts = [] := by
  induction patience generalizing r with
  | zero => exact ⟨[],r,rfl,.refl r,rfl⟩
  | succ patience ih =>
    obtain ⟨hfound,hlook⟩ := hk 0 (Nat.succ_pos patience)
    obtain ⟨acts,next,heq,hnext,hacts⟩ := ih (r := round h pid r) fun k hlt =>
      hk (k + 1) (Nat.succ_lt_succ hlt)
    obtain ⟨answer,s,hpoll,hs⟩ := r.continues_poll h pid
    obtain rfl : answer = .ok none := (congrArg Prod.fst hpoll).symm.trans hfound
    have hc : s.cancelled = false := (congrArg (fun p => Run.cancelled p.2) hpoll).symm.trans hlook
    obtain ⟨t,hlooked,ht⟩ := s.continues_look
    have hround : round h pid r = t.pause h := by simp [round,hpoll,hlooked]
    rw [hround] at heq hnext
    rw [hc] at hlooked ht
    refine ⟨_,next,?_,hs.trans (ht.trans ((t.continues_pause h).trans hnext)),?_⟩
    · simp only [waitOrCancel,tryWait,hpoll,hlooked]
      exact heq
    · simp [signals_cons,Act.signal?,hacts]

end MatrixHarness.Child
