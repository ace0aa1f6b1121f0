import ModemRelay.Scenario.Basic

/-! Running a scenario, and what came of it. -/

namespace ModemRelay.Scenario

open Simulation

/-- The outcome of a scenario. -/
structure Report where
  name : String
  seed : UInt64
  finalMode : Mode
  delivered : List String
  failures : FailureLog
  stats : Stats
  /-- The time at which the session ended. -/
  elapsed : Duration
  violations : List Violation

namespace Report

def passed (r : Report) : Bool := r.violations.isEmpty

/-- The report of a scenario that met its expectations; an error otherwise. -/
def check (r : Report) : Except Error Report :=
  if r.passed then .ok r else .error (.unmet r.name r.violations)

end Report

/-- Schedules a step. Its time counts from now. -/
def Step.schedule (session : Session) : Step → Outcome Session Unit
  | command time line => session.command (.ofMillis time) line
  | inject time source line => session.inject (.ofMillis time) source line
  | setMode time mode => session.scheduleMode (.ofMillis time) mode

def scheduleAll : List Step → Session → Outcome Session Unit
  | [], session => .done () session
  | step :: rest, session => (step.schedule session).andThen fun () => scheduleAll rest

/-- The session of a scenario with its mode set and its steps scheduled. -/
def session (s : Scenario) : Outcome Session Unit :=
  let start := Session.new
    { seed := s.seed, relay := s.relay, modem := s.modem, model := s.model }
  (start.setMode s.mode).andThen fun _ => scheduleAll s.steps

/-- Runs the session of a scenario to its end. -/
def play (s : Scenario) : Outcome Session Nat := s.session.andThen fun () => Session.run

/-- A violation if the actual value is not the one expected, where one is. -/
def differing [DecidableEq α] (violation : α → α → Violation) (expected : Option α)
    (actual : α) : List Violation :=
  match expected with
  | some e => if e = actual then [] else [violation e actual]
  | none => []

/-- What was expected and did not come. -/
def Expectations.violations (e : Expectations) (delivered : List String)
    (failures : FailureLog) (finalMode : Mode) : List Violation :=
  differing .responses e.responses delivered ++
    differing .mismatches e.mismatches failures.mismatches ++
    differing .timeouts e.timeouts failures.timeouts ++
    differing .mode e.mode finalMode

/-- Compares a session with what the scenario expects. -/
def report (s : Scenario) (session : Session) : Report where
  name := s.name
  seed := s.seed
  finalMode := session.relay.mode
  delivered := session.delivered
  failures := session.failures
  stats := session.relay.stats
  elapsed := session.now
  violations :=
    s.expect.violations session.delivered session.failures session.relay.mode

/-- The note that the session of a scenario has ended. -/
def finished (s : Scenario) (session : Session) : Log.Record where
  level := .debug
  source := .scenario
  message := "scenario finished at " ++ session.now.text
  fields := [("scenario", .plain s.name), ("steps", .plain (toString session.steps))]

def log (s : Scenario) (session : Session) : List Log.Record :=
  session.peers.log.toList.map (·.record) ++ [s.finished session]

/-- Runs a scenario to its end and reports. The times of a scenario, in milliseconds of 64 bits,
leave so much room below the largest duration that the session does not stop early. -/
def run (s : Scenario) : Report := s.report s.play.state

end ModemRelay.Scenario
