import ModemRelay.Log.Record

/-! Divergences between the physical modem and the model, and the list that keeps them. -/

namespace ModemRelay

/-- A divergence found while comparing the two answers to a command. -/
inductive Failure where
  /-- Both answered, with different text. -/
  | mismatch (modem model : String)
  /-- The modem did not answer in time. -/
  | timeout (model : String)
  deriving DecidableEq

namespace Failure

/-- The modem's answer, absent after a timeout. -/
def modemValue : Failure → Option String
  | mismatch modem _ => some modem
  | timeout _ => none

/-- The model's answer, which the client got. -/
def modelValue : Failure → String
  | mismatch _ model | timeout model => model

def isTimeout : Failure → Bool
  | mismatch .. => false
  | timeout _ => true

def text : Failure → String
  | mismatch modem model => "mismatch: modem |" ++ modem ++ "| vs model |" ++ model ++ "|"
  | timeout model => "modem timed out; model answered |" ++ model ++ "|"

def record : Failure → Log.Record
  | mismatch modem model =>
    { level := .warn
      source := .failures
      message := "response verification failed: mismatch"
      fields := [("modem", .quoted modem), ("model", .quoted model)] }
  | timeout model =>
    { level := .warn
      source := .failures
      message := "response verification failed: modem timed out"
      fields := [("model", .quoted model)] }

end Failure

/-- Failures in the order of their reports. -/
structure FailureLog where
  entries : Array Failure := #[]
  deriving DecidableEq

namespace FailureLog

def toList (log : FailureLog) : List Failure := log.entries.toList

def report (log : FailureLog) (f : Failure) : FailureLog := ⟨log.entries.push f⟩

def mismatches (log : FailureLog) : Nat := log.toList.countP (!·.isTimeout)

def timeouts (log : FailureLog) : Nat := log.toList.countP (·.isTimeout)

def isClean (log : FailureLog) : Bool := log.entries.isEmpty

@[simp] theorem toList_report (log : FailureLog) (f : Failure) :
    (log.report f).toList = log.toList ++ [f] := by
  simp [report, toList]

end FailureLog

end ModemRelay
