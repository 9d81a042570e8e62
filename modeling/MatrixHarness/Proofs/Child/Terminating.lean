import MatrixHarness.Proofs.Child.Traces

/-! # Terminating more than once

A handle may be asked to terminate its child as often as one likes, and the world may go on as it
likes between two calls.  A child that was not reaped still has its number, so that a signal reaches
it and no other process; with the call that reaps the child the handle loses the number. -/
namespace MatrixHarness.Child

open Acts

variable {σ : Type}

/-- A call that is still to come: how long it waits, and what becomes of the world before it. -/
structure Attempt (σ : Type) where
  patience : Nat
  meanwhile : σ → σ

def Attempt.before (a : Attempt σ) (r : Run σ) : Run σ := { r with world := a.meanwhile r.world }

@[simp] theorem Attempt.history_before (a : Attempt σ) (r : Run σ) :
    (a.before r).history = r.history := rfl

/-- A call that was made: what was done, its answer, and the handle that it left. -/
structure Termination where
  acts : List Act
  answer : Option (Except IoError WaitStatus)
  left : Child

namespace Termination

def ended (t : Termination) : Bool :=
  match t.answer with
  | some (.ok _) => true
  | _ => false

def actsOf (ts : List Termination) : List Act := ts.flatMap acts

@[simp] theorem actsOf_nil : actsOf [] = [] := rfl
@[simp] theorem actsOf_cons (t : Termination) (ts : List Termination) :
    actsOf (t :: ts) = t.acts ++ actsOf ts := rfl

end Termination

open Termination

def terminateAgain (h : Host σ) :
    List (Attempt σ) → Child → Run σ → List Termination × Child × Run σ
  | [], c, r => ([],c,r)
  | a :: attempts, c, r =>
    let (answer,left,next) := c.terminate h a.patience (a.before r)
    let (later,last) := terminateAgain h attempts left next
    (⟨next.history.drop r.history.length,answer,left⟩ :: later,last)

/-- What is safe about a call between others on the handle `c`. -/
structure Safe (c : Child) (before : List Termination) (t : Termination)
    (after : List Termination) : Prop where
  /-- At most one signal is sent, to the child itself, right behind the poll that finds it running,
  and nothing has reaped it before. -/
  signal : signals t.acts = [] ∨ ∃ pid sent rest, c = unreaped pid ∧ 0 < pid.number ∧
    pid.number < 2147483648 ∧ reapings (actsOf before) = [] ∧
    t.acts = .polled pid (.ok none) :: .signaled pid .term sent :: rest ∧ signals rest = []
  /-- A status is that with which the child was reaped, once; the handle has no number any more. -/
  status : ∀ st, t.answer = some (.ok st) → t.left = reaped st ∧ t.left.id? = none ∧
    (c = reaped st ∨ ∃ pid, c = unreaped pid ∧ reapings (actsOf before ++ t.acts) = [(pid,st)])
  /-- It is the answer of all later calls, which do nothing at all. -/
  later : ∀ st, t.answer = some (.ok st) →
    ∀ u ∈ after, u.answer = some (.ok st) ∧ u.acts = [] ∧ u.left.id? = none
  /-- A call without a status leaves the handle as it was. -/
  kept : (∀ st, t.answer ≠ some (.ok st)) →
    t.left = c ∧ c.id?.isSome = true ∧ reapings (actsOf before ++ t.acts) = []
  /-- A call on a child that is reaped has its status at once. -/
  settled : ∀ st, c = reaped st → t = ⟨[],some (.ok st),reaped st⟩

inductive Calls : Child → List Termination → Prop
  | done (c : Child) : Calls c []
  | settled {status : WaitStatus} {ts : List Termination} : Calls (reaped status) ts →
    Calls (reaped status) (⟨[],some (.ok status),reaped status⟩ :: ts)
  | asked {pid : Pid} {n : Nat} {acts : List Act}
    {answer : Option (Except IoError WaitStatus)} {ts : List Termination} :
    Terminated pid n acts answer → Calls (Child.left pid answer) ts →
    Calls (unreaped pid) (⟨acts,answer,Child.left pid answer⟩ :: ts)

theorem terminate_reaped (h : Host σ) (patience : Nat) (status : WaitStatus) (r : Run σ) :
    terminate h patience (reaped status) r = (some (.ok status),reaped status,r) := rfl

theorem terminateAgain_calls (h : Host σ) (attempts : List (Attempt σ)) (c : Child) (r : Run σ) :
    ∃ ts last next, terminateAgain h attempts c r = (ts,last,next) ∧
      ts.length = attempts.length ∧ next.history = r.history ++ actsOf ts ∧ Calls c ts := by
  induction attempts generalizing c r with
  | nil => exact ⟨[],c,r,rfl,rfl,by simp,.done c⟩
  | cons a attempts ih =>
    rcases c with pid | status
    · obtain ⟨acts,answer,s,heq,hacts,hs⟩ := terminate_course h a.patience pid (a.before r)
      obtain ⟨ts,last,next,hlater,hlength,hnext,hcalls⟩ := ih (Child.left pid answer) s
      refine ⟨_,last,next,?_,by simp [hlength],?_,.asked hacts hcalls⟩
      · have hdrop := hs.acts_eq
        simp only [a.history_before] at hdrop
        simp only [terminateAgain,heq,hlater,hdrop]
      · simp [hnext,hs.history]
    · obtain ⟨ts,last,next,hlater,hlength,hnext,hcalls⟩ := ih (reaped status) (a.before r)
      refine ⟨_,last,next,?_,by simp [hlength],by simp [hnext],.settled hcalls⟩
      simp [terminateAgain,terminate_reaped,hlater]

/-! ## One call -/

variable {pid : Pid} {n : Nat} {acts : List Act} {answer : Option (Except IoError WaitStatus)}

theorem Terminated.reapings (h : Terminated pid n acts answer) :
    Acts.reapings acts = reapingsFor pid answer := by
  cases h with
  | asked h => simpa [reapings_cons,Act.reaping?] using h.reapings
  | _ => rfl

/-- A signal is sent behind the poll that finds the child running, and no other is. -/
theorem Terminated.signal (h : Terminated pid n acts answer) : Acts.signals acts = [] ∨
    ∃ sent rest, acts = .polled pid (.ok none) :: .signaled pid .term sent :: rest ∧
      Acts.signals rest = [] := by
  cases h with
  | failed e => exact .inl rfl
  | ended status => exact .inl rfl
  | refused e => exact .inr ⟨_,[],rfl,rfl⟩
  | asked h => exact .inr ⟨_,_,rfl,h.signals⟩

/-! ## Calls one after another -/

variable {c : Child} {ts before after : List Termination} {t first : Termination}

theorem Calls.of_reaped {status : WaitStatus} (h : Calls (reaped status) ts) :
    ∀ t ∈ ts, t = ⟨[],some (.ok status),reaped status⟩ := by
  generalize hc : reaped status = c at h
  induction h with
  | done c => simp
  | settled _ ih =>
    obtain rfl : status = _ := Child.reaped.inj hc
    exact List.forall_mem_cons.mpr ⟨rfl,ih rfl⟩
  | asked => cases hc

theorem safe_settled {status : WaitStatus} (hc : c = reaped status ∨
      ∃ pid, c = unreaped pid ∧ reapings (actsOf before) = [(pid,status)])
    (ha : ∀ u ∈ after, u = ⟨[],some (.ok status),reaped status⟩) :
    Safe c before ⟨[],some (.ok status),reaped status⟩ after where
  signal := .inl rfl
  status st hst := by
    obtain rfl : status = st := by simpa using hst
    simpa [id?] using hc
  later st hst u hu := by
    obtain rfl : status = st := by simpa using hst
    rw [ha u hu]
    exact ⟨rfl,rfl,rfl⟩
  kept hne := absurd rfl (hne status)
  settled st hst := by
    subst hst
    obtain rfl : st = status := by simpa using hc
    rfl

theorem Terminated.safe (h : Terminated pid n acts answer)
    (ha : Calls (Child.left pid answer) after) :
    Safe (unreaped pid) [] ⟨acts,answer,Child.left pid answer⟩ after where
  signal := by
    rcases h.signal with hs | ⟨sent,rest,hacts,hrest⟩
    · exact .inl hs
    · exact .inr ⟨pid,sent,rest,rfl,pid.inRange.1,pid.inRange.2,rfl,hacts,hrest⟩
  status st hst := by
    obtain rfl : answer = some (.ok st) := hst
    exact ⟨rfl,rfl,.inr ⟨pid,rfl,h.reapings⟩⟩
  later st hst u hu := by
    obtain rfl : answer = some (.ok st) := hst
    rw [ha.of_reaped u hu]
    exact ⟨rfl,rfl,rfl⟩
  kept hne := by
    have hr := h.reapings
    rcases answer with _ | (e | st)
    · exact ⟨rfl,rfl,hr⟩
    · exact ⟨rfl,rfl,hr⟩
    · exact absurd rfl (hne st)
  settled st hst := by cases hst

theorem Safe.behind (h : Safe c before t after) (hf : reapings first.acts = []) :
    Safe c (first :: before) t after where
  signal := by simpa [hf] using h.signal
  status := by simpa [hf] using h.status
  later := h.later
  kept := by simpa [hf] using h.kept
  settled := h.settled

theorem actsOf_settled {status : WaitStatus}
    (h : ∀ t ∈ ts, t = ⟨[],some (.ok status),reaped status⟩) : actsOf ts = [] := by
  refine List.flatMap_eq_nil_iff.mpr fun t ht => ?_
  rw [h t ht]

theorem Calls.safe (h : Calls c ts) (hts : ts = before ++ t :: after) : Safe c before t after := by
  induction h generalizing before with
  | done c => simp at hts
  | @settled status ts h =>
    have hall := (Calls.settled h).of_reaped
    rw [hts] at hall
    rw [hall t (by simp)]
    exact safe_settled (.inl rfl) fun u hu => hall u (by simp [hu])
  | @asked pid n acts answer ts h hcalls ih =>
    rcases before with _ | ⟨first,before⟩
    · obtain ⟨rfl,rfl⟩ := List.cons.inj hts
      exact h.safe hcalls
    · obtain ⟨rfl,rfl⟩ := List.cons.inj hts
      have hreap := h.reapings
      rcases answer with _ | (e | status)
      · exact (ih rfl).behind hreap
      · exact (ih rfl).behind hreap
      · have hall := hcalls.of_reaped
        have hbefore : actsOf before = [] := actsOf_settled fun u hu => hall u (by simp [hu])
        rw [hall t (by simp)]
        refine safe_settled (.inr ⟨pid,rfl,?_⟩) fun u hu => hall u (by simp [hu])
        simpa [hbefore,reapingsFor] using hreap

/-- Among the calls that end with a status at most one signal is sent. -/
theorem Calls.signals_le (h : Calls c ts) : (signals (actsOf (ts.filter ended))).length ≤ 1 := by
  induction h with
  | done c => simp
  | @settled status ts h ih => simpa [List.filter_cons,ended] using ih
  | @asked pid n acts answer ts h hcalls ih =>
    rcases answer with _ | (e | status)
    · simpa [List.filter_cons,ended] using ih
    · simpa [List.filter_cons,ended] using ih
    · have hlater : actsOf (ts.filter ended) = [] := actsOf_settled fun u hu =>
        hcalls.of_reaped u (List.mem_filter.mp hu).1
      rcases h.signal with hs | ⟨sent,rest,rfl,hrest⟩
      · simp [List.filter_cons,ended,hlater,hs]
      · simp [List.filter_cons,ended,hlater,signals_cons,Act.signal?,hrest]

/-- Whatever the state of a child, whatever the host answers and however often its handle is asked
to terminate it: each call is safe, so that a signal only ever reaches the child itself, while it
was not reaped; a status is that with which the child was reaped, and the answer of all later calls,
which do nothing; and among the calls that end with a status at most one signal is sent. -/
theorem terminateAgain_safe (h : Host σ) (attempts : List (Attempt σ)) (c : Child) (r : Run σ) :
    ∃ ts last next, terminateAgain h attempts c r = (ts,last,next) ∧
      ts.length = attempts.length ∧ next.history = r.history ++ actsOf ts ∧
      (∀ before t after, ts = before ++ t :: after → Safe c before t after) ∧
      (signals (actsOf (ts.filter ended))).length ≤ 1 := by
  obtain ⟨ts,last,next,heq,hlength,hnext,hcalls⟩ := terminateAgain_calls h attempts c r
  exact ⟨ts,last,next,heq,hlength,hnext,fun _ _ _ hts => hcalls.safe hts,hcalls.signals_le⟩

end MatrixHarness.Child
