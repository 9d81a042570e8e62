import MatrixHarness.Text.Terminal

/-! # Marked text

Texts about the command line, in stretches that say what they are.  In styles each stretch that is
marked stands between the sequences that set and reset its style.  Without styles only what a
terminal would print remains, so that words of the user bring no styles of their own. -/
namespace MatrixHarness.Arguments

inductive Mark where
  | plain
  /-- The words before a usage or a list. -/
  | heading
  /-- What is typed as it stands. -/
  | literal
  /-- The word before a refusal. -/
  | alarm
  /-- What would be right. -/
  | valid
  /-- What is wrong. -/
  | invalid
  deriving DecidableEq

def Mark.parameters : Mark → List String
  | plain => []
  | heading => ["1","4"]
  | literal => ["1"]
  | alarm => ["1","31"]
  | valid => ["32"]
  | invalid => ["33"]

abbrev Marked := List (Mark × String)

namespace Marked

def text (m : Marked) : String := String.join (m.map (·.2))

def start (k : Mark) : List Char :=
  k.parameters.flatMap fun n => '\x1b' :: '[' :: n.toList ++ ['m']

def reset (k : Mark) : List Char := if k = .plain then [] else ['\x1b','[','0','m']

def painted (m : Marked) : List Char :=
  m.flatMap fun p => start p.1 ++ p.2.toList ++ reset p.1

def shown (styled : Bool) (m : Marked) : String :=
  String.ofList (if styled then painted m else Text.flowed false .idle (painted m))

/-- What is printed of the text when it is taken as a whole. -/
def bare (m : Marked) : String := String.ofList (Text.printed .idle (painted m))

@[simp] theorem printed_start (k : Mark) (r : List Char) :
    Text.printed .idle (start k ++ r) = Text.printed .idle r := by cases k <;> rfl

@[simp] theorem printed_reset (k : Mark) (r : List Char) :
    Text.printed .idle (reset k ++ r) = Text.printed .idle r := by cases k <;> rfl

@[simp] theorem flowed_start (k : Mark) (r : List Char) :
    Text.flowed false .idle (start k ++ r) = Text.flowed false .idle r := by cases k <;> rfl

@[simp] theorem flowed_reset (k : Mark) (r : List Char) :
    Text.flowed false .idle (reset k ++ r) = Text.flowed false .idle r := by cases k <;> rfl

def Quiet (m : Marked) : Prop :=
  ∀ p ∈ m, ∀ c ∈ p.2.toList, Text.isLayout c ∨ ¬ Text.isControl c

theorem ofList_stretches (m : Marked) : String.ofList (m.flatMap (·.2.toList)) = m.text := by
  rw [text,← String.toList_inj]
  simp [String.toList_join,List.flatMap,Function.comp_def]

/-- Stretches without control characters are shown as they are. -/
theorem shown_false {m : Marked} (h : Quiet m) : m.shown false = m.text := by
  have : Text.flowed false .idle (painted m) = m.flatMap (·.2.toList) := by
    induction m with
    | nil => rfl
    | cons p m ih =>
      have ih := ih fun q hq => h q (by simp [hq])
      have hp := Text.flowed_idle_append (h p (by simp)) (reset p.1 ++ painted m)
      simp_all [painted,List.append_assoc]
  rw [shown,if_neg (by decide),this,ofList_stretches]

theorem bare_eq_text {m : Marked} (h : Quiet m) : m.bare = m.text := by
  have : Text.printed .idle (painted m) = m.flatMap (·.2.toList) := by
    induction m with
    | nil => rfl
    | cons p m ih =>
      have ih := ih fun q hq => h q (by simp [hq])
      have hp := Text.printed_idle_append (h p (by simp)) (reset p.1 ++ painted m)
      simp_all [painted,List.append_assoc]
  rw [bare,this,ofList_stretches]

end Marked

def plain (s : String) : Mark × String := (.plain,s)

end MatrixHarness.Arguments
