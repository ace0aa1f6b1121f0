import ModemRelay.Scenario.Basic
import ModemRelay.Toml.Fields

/-! Scenarios, and their parts, from the entries of a TOML document.

Fields that are missing take their defaults, and names that are not known are refused. A step is
different: all fields of its kind have to be there, and others are let pass. -/

namespace ModemRelay

open Toml

/-- The settings of a relay. -/
def Relay.Config.ofEntries? (entries : Entries) : Option Relay.Config := do
  guard (entries.onlyHas ["response_timeout_ms"])
  let default : Relay.Config := {}
  let responseTimeout ← entries.orDefault? "response_timeout_ms" default.responseTimeout
    fun v => v.word?.map .ofMillis
  return { responseTimeout }

def Relay.Config.ofToml? (text : String) : Option Relay.Config := parse? text >>= ofEntries?

namespace Simulation.Responder.Config

def ofEntries? (entries : Entries) : Option Config := do
  guard (entries.onlyHas ["latency_ms", "jitter_ms", "responses", "fallback"])
  let latency ← entries.orDefault? "latency_ms" 0 Value.word?
  let jitter ← entries.orDefault? "jitter_ms" 0 Value.word?
  let fallback ← entries.optional? "fallback" Value.text?
  let responses ← entries.orDefault? "responses" [] Value.entries?
  responses.foldlM (fun config (command, v) => v.text?.map (config.respond command))
    { latency, jitter, fallback }

def ofToml? (text : String) : Option Config := parse? text >>= ofEntries?

end Simulation.Responder.Config

namespace Scenario

open Simulation

private def mode? (v : Value) : Option Mode := v.text? >>= Mode.ofName?

private def endpoint? (v : Value) : Option Endpoint := v.text? >>= Endpoint.ofName?

/-- A step. Its kind says which fields it has. -/
def Step.ofEntries? (entries : Entries) : Option Step := do
  let kind ← entries.required? "kind" Value.text?
  let time ← entries.required? "at_ms" Value.word?
  if kind = "command" then
    return .command time (← entries.required? "line" Value.text?)
  else if kind = "inject" then
    return .inject time (← entries.required? "from" endpoint?)
      (← entries.required? "line" Value.text?)
  else if kind = "set-mode" then
    return .setMode time (← entries.required? "mode" mode?)
  else
    none

def Expectations.ofEntries? (entries : Entries) : Option Expectations := do
  guard (entries.onlyHas ["responses", "mismatches", "timeouts", "mode"])
  return {
    responses := ← entries.optional? "responses" Value.texts?
    mismatches := ← entries.optional? "mismatches" Value.count?
    timeouts := ← entries.optional? "timeouts" Value.count?
    mode := ← entries.optional? "mode" mode? }

/-- A scenario, which may still be one that no session could be as. -/
def ofEntries? (entries : Entries) : Option Scenario := do
  guard (entries.onlyHas
    ["name", "seed", "mode", "transceiver", "modem", "model", "step", "expect"])
  let table {α : Type} (read : Entries → Option α) (v : Value) : Option α := v.entries? >>= read
  return {
    name := ← entries.orDefault? "name" "" Value.text?
    seed := ← entries.orDefault? "seed" 0 Value.word?
    mode := ← entries.orDefault? "mode" .wardModel mode?
    relay := ← entries.orDefault? "transceiver" {} (table Relay.Config.ofEntries?)
    modem := ← entries.optional? "modem" (table Responder.Config.ofEntries?)
    model := ← entries.orDefault? "model" {} (table Responder.Config.ofEntries?)
    steps := ← entries.orDefault? "step" [] fun v => do
      (← v.items?).mapM (table Step.ofEntries?)
    expect := ← entries.orDefault? "expect" {} (table Expectations.ofEntries?) }

/-- The scenario that a text describes. -/
def ofToml (text : String) : Except Error Scenario :=
  match parse? text >>= ofEntries? with
  | none => .error .malformed
  | some s =>
    match s.problem? with
    | some cause => .error (.impossible cause)
    | none => .ok s

/-- The scenario of a file, given what reading the file has come to. -/
def load (path : String) (contents : Except ReadFault ByteArray) : Except Error Scenario :=
  match contents >>= decodeText with
  | .error fault => .error (.unreadable path fault)
  | .ok text => ofToml text

end Scenario

end ModemRelay
