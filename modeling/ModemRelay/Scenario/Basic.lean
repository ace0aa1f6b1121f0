import ModemRelay.Files
import ModemRelay.Simulation.Session

/-! Scenarios: descriptions of sessions, what makes one impossible, and the errors that reading and
running one can end in. -/

namespace ModemRelay

open Simulation

/-- Something that happens at a time, in milliseconds. -/
inductive Scenario.Step where
  | command (time : UInt64) (line : String)
  /-- A line comes unasked from an endpoint. -/
  | inject (time : UInt64) (source : Endpoint) (line : String)
  | setMode (time : UInt64) (mode : Mode)
  deriving DecidableEq

/-- What a session has to produce. What is absent is not checked. -/
structure Scenario.Expectations where
  /-- The lines the client is sent, all of them and in order. -/
  responses : Option (List String) := none
  mismatches : Option Nat := none
  timeouts : Option Nat := none
  mode : Option Mode := none
  deriving DecidableEq

/-- A session from its parties to its outcome. -/
structure Scenario where
  name : String := ""
  seed : UInt64 := 0
  /-- The mode asked for at the start. -/
  mode : Mode := .wardModel
  relay : Relay.Config := {}
  modem : Option Responder.Config := none
  model : Responder.Config := {}
  steps : List Scenario.Step := []
  expect : Scenario.Expectations := {}

namespace Scenario

/-- Why no session could be as described. -/
inductive Impossible where
  | emptyLine (step : Nat)
  | lineWithoutModem (step : Nat)
  deriving DecidableEq

def Impossible.message : Impossible → String
  | emptyLine step => "step " ++ toString step ++ " carries an empty line"
  | lineWithoutModem step =>
    "step " ++ toString step ++ " injects a modem line but no [modem] is configured"

/-- An expectation that a session did not meet. -/
inductive Violation where
  | responses (expected delivered : List String)
  | mismatches (expected actual : Nat)
  | timeouts (expected actual : Nat)
  | mode (expected actual : Mode)
  deriving DecidableEq

def Violation.message : Violation → String
  | responses expected delivered =>
    "expected responses " ++ Text.quoteList expected ++ ", modem-manager got " ++
      Text.quoteList delivered
  | mismatches expected actual =>
    "expected " ++ toString expected ++ " mismatches, got " ++ toString actual
  | timeouts expected actual =>
    "expected " ++ toString expected ++ " timeouts, got " ++ toString actual
  | mode expected actual => "expected final mode " ++ expected.name ++ ", got " ++ actual.name

/-- What reading or running a scenario can end in. -/
inductive Error where
  | unreadable (path : String) (fault : ReadFault)
  /-- The text is not a scenario in TOML. -/
  | malformed
  /-- The scenario is one that no session could be as. -/
  | impossible (cause : Impossible)
  | unmet (name : String) (violations : List Violation)
  deriving DecidableEq

/-- The message of an error. For a text that is not a scenario it is a stand-in: what the reader of
TOML has to say of it is not kept. -/
def Error.message : Error → String
  | unreadable path fault => "cannot read scenario " ++ path ++ ": " ++ fault.message
  | malformed => "invalid scenario: not a scenario in TOML"
  | impossible cause => "invalid scenario: " ++ cause.message
  | unmet name violations =>
    "scenario " ++ Text.quote name ++ " failed: " ++
      "; ".intercalate (violations.map (·.message))

/-- What is wrong with a step, given its position and whether there is a modem. -/
def Step.problem? (hasModem : Bool) (position : Nat) : Step → Option Impossible
  | command _ line => if line.isEmpty then some (.emptyLine position) else none
  | inject _ source line =>
    if line.isEmpty then some (.emptyLine position)
    else if source = .modem && !hasModem then some (.lineWithoutModem position)
    else none
  | setMode .. => none

/-- What is wrong with the first wrong step, if there is one. -/
def problem? (s : Scenario) : Option Impossible :=
  s.steps.zipIdx.findSome? fun (step, position) => step.problem? s.modem.isSome position

def withSeed (s : Scenario) (seed : UInt64) : Scenario := { s with seed }

def withMode (s : Scenario) (mode : Mode) : Scenario := { s with mode }

/-- The scenario with another response timeout, in milliseconds. -/
def withTimeout (s : Scenario) (ms : UInt64) : Scenario :=
  { s with relay := { s.relay with responseTimeout := .ofMillis ms } }

def addStep (s : Scenario) (step : Step) : Scenario := { s with steps := s.steps ++ [step] }

end Scenario

end ModemRelay
