import MatrixHarness.Text.Quoted
import MatrixHarness.System.Signal

/-! # Wait statuses

The word by which the system reports how a child ended, or that it stopped or went on.  The low
seven bits are zero after an exit, whose code is the next byte, and otherwise tell the signal. -/
namespace MatrixHarness

structure WaitStatus where
  word : UInt32
  deriving DecidableEq, Inhabited

namespace WaitStatus

def ofInt (raw : Int) : WaitStatus := ⟨UInt32.ofNat (raw % 4294967296).toNat⟩

def ofExit (code : Nat) : WaitStatus := ⟨UInt32.ofNat (code % 256 * 256)⟩

def ofSignal (s : Signal) : WaitStatus := ⟨UInt32.ofNat s.number⟩

def low (s : WaitStatus) : Nat := s.word.toNat % 128
def dumped (s : WaitStatus) : Bool := s.word.toNat / 128 % 2 == 1
def byte (s : WaitStatus) : Nat := s.word.toNat / 256 % 256

inductive Meaning where
  | exited (code : Nat)
  | signaled (signal : Signal) (dumped : Bool)
  | stopped (signal : Signal)
  | continued
  | unknown

def meaning (s : WaitStatus) : Meaning :=
  if s.low = 0 then .exited s.byte
  else if s.low < 127 then .signaled ⟨s.low⟩ s.dumped
  else if s.word.toNat % 256 = 127 then .stopped ⟨s.byte⟩
  else if s.word = 0xffff then .continued
  else .unknown

def success (s : WaitStatus) : Bool := s.word == 0

def code? (s : WaitStatus) : Option Nat :=
  match s.meaning with
  | .exited code => some code
  | _ => none

def signal? (s : WaitStatus) : Option Nat :=
  match s.meaning with
  | .signaled signal _ => some signal.number
  | _ => none

def signed (s : WaitStatus) : Int :=
  if s.word.toNat < 2147483648 then s.word.toNat else (s.word.toNat : Int) - 4294967296

def text (s : WaitStatus) : String :=
  match s.meaning with
  | .exited code => "exit status: " ++ toString code
  | .signaled signal dumped =>
    "signal: " ++ signal.text ++ if dumped then " (core dumped)" else ""
  | .stopped signal => "stopped (not terminated) by signal: " ++ signal.text
  | .continued => "continued (WIFCONTINUED)"
  | .unknown =>
    "unrecognised wait status: " ++ toString s.signed ++ " 0x" ++
      String.ofList (Text.hexDigits s.word.toNat)

end WaitStatus
end MatrixHarness
