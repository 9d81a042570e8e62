import MatrixHarness.Message
import MatrixHarness.Text.Quoted
import MatrixHarness.System.IoError
import MatrixHarness.System.WaitStatus

/-! # Failures

Why a pass failed, and the trail of an error from its outermost account to its root.  A failed pass
can be told from any other error by the failure that its trail holds. -/
namespace MatrixHarness

inductive Reason where
  /-- The server or the test-runner could not be started. -/
  | spawn
  /-- The test-runner ended without success. -/
  | testFailed
  /-- An interrupt stopped the pass. -/
  | interrupted
  /-- Any other error in looking after the processes. -/
  | fault
  deriving DecidableEq

namespace Reason

def message : Reason → Message
  | spawn => .reasonSpawn
  | testFailed => .reasonTestFailed
  | interrupted => .reasonInterrupted
  | fault => .reasonFault

def label (locale : String) (r : Reason) : String := r.message.text locale

end Reason

structure PassFailure where
  variant : String
  reason : Reason
  /-- How the test-runner ended, for a failed test. -/
  status : Option WaitStatus := none
  deriving DecidableEq

namespace PassFailure

def message (locale : String) (f : PassFailure) : Message :=
  match f.reason, f.status with
  | .testFailed, some status => .testFailed f.variant status.text
  | .interrupted, _ => .interrupted f.variant
  | reason, _ => .failureLine f.variant (reason.label locale)

def text (locale : String) (f : PassFailure) : String := (f.message locale).text locale

end PassFailure

/-- Why a variable has no value to insert. -/
inductive Unusable where
  | undefined
  /-- It has a value that is not text. -/
  | notText (value : RawText)
  deriving DecidableEq

def Unusable.text : Unusable → String
  | undefined => "environment variable not found"
  | notText value => "environment variable was not valid unicode: " ++ value.quoted

/-- One account of an error. -/
inductive Account where
  | failure (f : PassFailure)
  | io (e : IoError)
  /-- A reference to a variable that cannot be resolved. -/
  | unresolved (name : String) (cause : Unusable)
  | unusable (cause : Unusable)
  /-- Worded when it was given. -/
  | worded (text : String)
  deriving DecidableEq

/-- The text of an account; a failure is worded in the locale of the moment. -/
def Account.text (locale : String) : Account → String
  | failure f => f.text locale
  | io e => e.text
  | unresolved name cause => "error looking key '" ++ name ++ "' up: " ++ cause.text
  | unusable cause => cause.text
  | worded t => t

/-- An error: its root, and the accounts around it from the outermost inwards. -/
structure Trail where
  around : List Account
  root : Account
  deriving DecidableEq

namespace Trail

def ofAccount (a : Account) : Trail := ⟨[],a⟩

def within (t : Trail) (a : Account) : Trail := ⟨a :: t.around,t.root⟩

def accounts (t : Trail) : List Account := t.around ++ [t.root]

@[simp] theorem accounts_ofAccount (a : Account) : (ofAccount a).accounts = [a] := rfl

@[simp] theorem accounts_within (t : Trail) (a : Account) :
    (t.within a).accounts = a :: t.accounts := rfl

def texts (locale : String) (t : Trail) : List String := t.accounts.map (Account.text locale)

def text (locale : String) (t : Trail) : String := String.intercalate ": " (t.texts locale)

def failure? (t : Trail) : Option PassFailure :=
  t.accounts.findSome? fun
    | .failure f => some f
    | _ => none

@[simp] theorem failure?_within_failure (t : Trail) (f : PassFailure) :
    (t.within (.failure f)).failure? = some f := by simp [failure?]

end Trail
end MatrixHarness
