import MatrixHarness.Pass

/-! # Histories

A run goes on by adding acts behind its history.  What is said of longer stretches of a run rests on
three facts of each single call: which acts it adds, that a cancelled run stays cancelled, and that
a look which finds the run cancelled is right. -/
namespace MatrixHarness
namespace Run

variable {σ : Type}

/-- A run that goes on by some acts, in the order of time. -/
structure Continues (r : Run σ) (acts : List Act) (next : Run σ) : Prop where
  history : next.history = r.history ++ acts
  stays : r.cancelled = true → next.cancelled = true
  seen : .looked true ∈ acts → next.cancelled = true

theorem Continues.refl (r : Run σ) : r.Continues [] r := ⟨by simp,id,by simp⟩

theorem Continues.trans {r s t : Run σ} {acts more : List Act} (hs : r.Continues acts s)
    (ht : s.Continues more t) : r.Continues (acts ++ more) t where
  history := by rw [ht.history,hs.history,List.append_assoc]
  stays h := ht.stays (hs.stays h)
  seen h := by
    rcases List.mem_append.mp h with h | h
    · exact ht.stays (hs.seen h)
    · exact ht.seen h

/-- The acts of a longer stretch are those that its history has and the earlier one has not. -/
theorem Continues.acts_eq {r s : Run σ} {acts : List Act} (h : r.Continues acts s) :
    s.history.drop r.history.length = acts := by simp [h.history]

theorem continues_after (h : Host σ) (a : Act) (world : σ) (r : Run σ)
    (ha : a ≠ .looked true) : r.Continues [a] (r.after h a world) where
  history := history_after h a world r
  stays := cancelled_after h a world r
  seen hm := absurd (List.mem_singleton.mp hm).symm ha

theorem continues_note (a : Act) (r : Run σ) (ha : a ≠ .looked true) :
    r.Continues [a] (r.note a) where
  history := history_note a r
  stays := id
  seen hm := absurd (List.mem_singleton.mp hm).symm ha

theorem continues_look (r : Run σ) :
    ∃ s, r.look = (r.cancelled,s) ∧ r.Continues [.looked r.cancelled] s :=
  ⟨_,rfl,history_look r,id,fun hm => (Act.looked.inj (List.mem_singleton.mp hm)).symm⟩

theorem continues_spawn (h : Host σ) (role : Role) (cl : CommandLine) (r : Run σ) :
    ∃ answer s, r.spawn h role cl = (answer,s) ∧ r.Continues [.spawned role cl answer] s :=
  ⟨_,_,rfl,continues_after h _ _ r (by simp)⟩

theorem continues_poll (h : Host σ) (pid : Pid) (r : Run σ) :
    ∃ answer s, r.poll h pid = (answer,s) ∧ r.Continues [.polled pid answer] s :=
  ⟨_,_,rfl,continues_after h _ _ r (by simp)⟩

theorem continues_signal (h : Host σ) (pid : Pid) (signal : Signal) (r : Run σ) :
    ∃ answer s, r.signal h pid signal = (answer,s) ∧ r.Continues [.signaled pid signal answer] s :=
  ⟨_,_,rfl,continues_after h _ _ r (by simp)⟩

theorem continues_pause (h : Host σ) (r : Run σ) : r.Continues [.paused] (r.pause h) :=
  continues_after h _ _ r (by simp)

theorem continues_hear (h : Host σ) (n : Notice) (r : Run σ) :
    r.Continues [.told n] (r.hear h n) :=
  continues_after h _ _ r (by simp)

theorem continues_printAll (h : Host σ) (ps : List (Stream × String)) (r : Run σ) :
    r.Continues (ps.map fun p => .printed p.1 p.2) (r.printAll h ps) := by
  induction ps generalizing r with
  | nil => exact .refl r
  | cons p ps ih =>
    have h₁ : r.Continues [.printed p.1 p.2] (r.print h p) := continues_after h _ _ r (by simp)
    exact h₁.trans (ih (r.print h p))

end Run

namespace Harness

variable {σ : Type}

def noticeActs (H : Harness σ) (n : Notice) : List Act :=
  .told n :: (H.listener n).map fun p => .printed p.1 p.2

def enterActs (H : Harness σ) (config : PassConfig) (state : PassState) : List Act :=
  H.noticeActs (.entered config state)

theorem continues_notify (H : Harness σ) (n : Notice) (r : Run σ) :
    r.Continues (H.noticeActs n) (H.notify n r) :=
  (r.continues_hear H.host n).trans (Run.continues_printAll H.host (H.listener n) _)

theorem continues_enter (H : Harness σ) (config : PassConfig) (state : PassState) (r : Run σ) :
    r.Continues (H.enterActs config state) (H.enter config state r) :=
  H.continues_notify _ r

/-- A notice is told and printed, and nothing else is done meanwhile. -/
theorem mem_noticeActs {H : Harness σ} {n : Notice} {a : Act} (h : a ∈ H.noticeActs n) :
    a = .told n ∨ ∃ stream text, a = .printed stream text := by
  rcases List.mem_cons.mp h with h | h
  · exact .inl h
  · obtain ⟨p,-,rfl⟩ := List.mem_map.mp h
    exact .inr ⟨p.1,p.2,rfl⟩

end Harness
end MatrixHarness
