import ModemRelay.Failure
import ModemRelay.Mode

/-! Operations for comparing the relay with a simpler machine, and what each makes observable. -/

namespace ModemRelay.Conformance

/-- The lines that operations speak of: few, so that equal and unequal answers are both common. -/
def vocabulary : List String := ["OK", "ERROR", "AT", "AT+CGMI", "+CSQ: 20,99", "+CREG: 0,1"]

/-- The choice of a line of the vocabulary, counted round and round. -/
structure Word where
  choice : UInt8
  deriving DecidableEq

/-- The chosen line. -/
def Word.text (w : Word) : String :=
  vocabulary.get ⟨w.choice.toNat % vocabulary.length, Nat.mod_lt _ (by decide)⟩

/-- Something that is done to both machines. -/
inductive Operation where
  | command (word : Word)
  | modemLine (word : Word)
  | modelLine (word : Word)
  /-- The timer armed longest ago fires. -/
  | fireOldest
  /-- The timer that fired or was cancelled last fires once more. -/
  | fireStale
  | setMode (mode : Mode)
  deriving DecidableEq

/-- An effect that can be seen from outside. -/
inductive Observation where
  | toModemManager (line : String)
  | toModem (line : String)
  | toModel (line : String)
  | failed (failure : Failure)
  deriving DecidableEq

end ModemRelay.Conformance
