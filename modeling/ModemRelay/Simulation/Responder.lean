import ModemRelay.Simulation.Environment

/-! Parties that answer commands from a table, after a while.

A responder is half-duplex: it answers in the order in which it is asked, so that none of its
answers overtakes an earlier one. -/

namespace ModemRelay.Simulation

/-- How a responder answers: a fixed delay and the bound of a random one, in milliseconds, the
answers to the commands it knows, and the answer to all others, if it has one. -/
structure Responder.Config where
  latency : UInt64 := 0
  jitter : UInt64 := 0
  responses : Std.ExtTreeMap String String := ∅
  fallback : Option String := none

namespace Responder.Config

instance : Inhabited Config := ⟨{}⟩

def respond (c : Config) (command response : String) : Config :=
  { c with responses := c.responses.insert command response }

/-- The answer to a command. -/
def response? (c : Config) (command : String) : Option String :=
  (c.responses[command]?).or c.fallback

end Responder.Config

/-- A responder and the time of its last answer so far. -/
structure Responder where
  config : Responder.Config
  busyUntil : Duration := .zero

namespace Responder

/-- The answer to a command, if there is one, and the delay until it comes. A command without an
answer leaves all as it was. -/
def answer (r : Responder) (command : String) (env : Environment) :
    Outcome (Responder × Environment) (Option (Duration × String)) :=
  match r.config.response? command with
  | none => .done none (r, env)
  | some response =>
    let (jitter, env) := env.jitter (.ofMillis r.config.jitter)
    match ((Duration.ofMillis r.config.latency).add? jitter).bind env.now.add? with
    | none => .overflow (r, env)
    | some ready =>
      let due := max ready r.busyUntil
      .done (some (due - env.now, response)) ({ r with busyUntil := due }, env)

/-- Schedules the answer to a command, if there is one, as a line from `source`. -/
def hear (r : Responder) (source : Endpoint) (command : String) (env : Environment) :
    Outcome (Responder × Environment) Unit :=
  (r.answer command env).andThen fun
    | none, state => .done () state
    | some (delay, response), (r, env) =>
      ((env.schedule delay (.line source response)).map fun _ => ()).mapState (r, ·)

end Responder

end ModemRelay.Simulation
