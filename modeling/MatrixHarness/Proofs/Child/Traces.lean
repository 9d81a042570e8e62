import MatrixHarness.Proofs.Child.Waiting

/-! # Reapings and signals

What the acts of looking after a child tell of it: which children they reap, with which status, and
which signals they send.  A child is reaped by the poll that finds its status, so that it is reaped
exactly once where the answer is a status, and not at all where it is none. -/
namespace MatrixHarness

def Act.reaping? : Act → Option (Pid × WaitStatus)
  | .polled pid (.ok (some status)) => some (pid,status)
  | _ => none

def Act.signal? : Act → Option (Pid × Signal × Except IoError Unit)
  | .signaled pid s answer => some (pid,s,answer)
  | _ => none

namespace Acts

def reapings (acts : List Act) : List (Pid × WaitStatus) := acts.filterMap Act.reaping?

def signals (acts : List Act) : List (Pid × Signal × Except IoError Unit) :=
  acts.filterMap Act.signal?

@[simp] theorem reapings_nil : reapings [] = [] := rfl
@[simp] theorem reapings_append (xs ys : List Act) :
    reapings (xs ++ ys) = reapings xs ++ reapings ys := List.filterMap_append
theorem reapings_cons (a : Act) (acts : List Act) :
    reapings (a :: acts) = a.reaping?.toList ++ reapings acts := by
  cases h : a.reaping? <;> simp [reapings,h]

@[simp] theorem signals_nil : signals [] = [] := rfl
@[simp] theorem signals_append (xs ys : List Act) :
    signals (xs ++ ys) = signals xs ++ signals ys := List.filterMap_append
theorem signals_cons (a : Act) (acts : List Act) :
    signals (a :: acts) = a.signal?.toList ++ signals acts := by
  cases h : a.signal? <;> simp [signals,h]

end Acts

namespace Child

open Acts

def reapingsFor (pid : Pid) : Option (Except IoError WaitStatus) → List (Pid × WaitStatus)
  | some (.ok status) => [(pid,status)]
  | _ => []

variable {pid : Pid} {n : Nat} {acts : List Act} {answer : Option (Except IoError WaitStatus)}

theorem Awaited.reapings (h : Awaited pid n acts answer) :
    Acts.reapings acts = reapingsFor pid answer := by
  induction h with
  | again h ih => simpa [reapings_cons,Act.reaping?] using ih
  | _ => rfl

theorem Awaited.signals (h : Awaited pid n acts answer) : Acts.signals acts = [] := by
  induction h with
  | again h ih => simpa [signals_cons,Act.signal?] using ih
  | _ => rfl

/-- A child that is killed is reaped only behind the signal; another one is sent only if the first
could not be. -/
theorem Killed.sent_then_reaped (h : Killed pid n acts answer) :
    ∃ sent after, acts = .signaled pid .kill sent :: after ∧
      Acts.reapings after = reapingsFor pid answer ∧
      (sent = .ok () ∧ Acts.signals after = [] ∨
        ∃ again e, after = [.signaled pid .kill again] ∧ answer = some (.error e)) := by
  cases h with
  | refused e again => exact ⟨_,_,rfl,rfl,.inr ⟨again,e,rfl,rfl⟩⟩
  | sent h => exact ⟨_,_,rfl,h.reapings,.inl ⟨rfl,h.signals⟩⟩

theorem Killed.reapings (h : Killed pid n acts answer) :
    Acts.reapings acts = reapingsFor pid answer := by
  obtain ⟨sent,after,rfl,hafter,-⟩ := h.sent_then_reaped
  simpa [reapings_cons,Act.reaping?] using hafter

end Child
end MatrixHarness
