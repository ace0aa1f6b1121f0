import ModemRelay.Random.Stream
import ModemRelay.Simulation.Agenda

/-! What all parties of a simulated session share: the clock with its events, the random stream and
the transcript. -/

namespace ModemRelay.Simulation

/-- Something that can be observed in a session. -/
inductive Trace where
  | received (source : Endpoint) (line : String)
  | sent (target : Endpoint) (line : String)
  | armed (timer : TimerHandle) (exchange : ExchangeId)
  /-- A timer was cancelled; `live` tells whether it was still to fire. -/
  | cancelled (timer : TimerHandle) (live : Bool)
  | fired (timer : TimerHandle) (exchange : ExchangeId)
  | failed (failure : Failure)
  /-- A mode was asked for; `effective` is the mode after that. -/
  | modeChanged (requested effective : Mode)
  deriving DecidableEq

/-- An observation and its time. -/
structure Observed where
  time : Duration
  trace : Trace
  deriving DecidableEq

/-- The shared state of a session. -/
structure Environment where
  random : Random
  agenda : Agenda := {}
  transcript : Array Observed := #[]

namespace Environment

/-- The environment at the start of time, its random stream given by a seed. -/
def ofSeed (seed : UInt64) : Environment := { random := ⟨seed, 0⟩ }

def now (env : Environment) : Duration := env.agenda.now

/-- Schedules an event after a delay. The result is its key. -/
def schedule (env : Environment) (delay : Duration) (event : Relay.Input) :
    Outcome Environment Nat :=
  (env.agenda.schedule delay event).mapState fun agenda => { env with agenda }

/-- Draws a random delay up to `max`. -/
def jitter (env : Environment) (max : Duration) : Duration × Environment :=
  let (delay, random) := env.random.jitter max
  (delay, { env with random })

/-- Adds an observation at the current time. -/
def record (env : Environment) (trace : Trace) : Environment :=
  { env with transcript := env.transcript.push ⟨env.agenda.now, trace⟩ }

/-- Arms a timer for an exchange. Its handle is the key of the event. -/
def arm (env : Environment) (delay : Duration) (exchange : ExchangeId) :
    Outcome Environment TimerHandle :=
  (env.schedule delay (.timer exchange)).andThen fun key env =>
    .done ⟨key⟩ (env.record (.armed ⟨key⟩ exchange))

def disarm (env : Environment) (timer : TimerHandle) : Environment :=
  let (live, agenda) := env.agenda.cancel timer.val
  { env with agenda }.record (.cancelled timer live)

/-- A summary of the environment: seed, time and number of queued events. -/
def summary (env : Environment) : String :=
  "SimEnv \x7b seed: " ++ toString env.random.seed ++ ", now: " ++ env.now.text ++
    ", queued: " ++ toString env.agenda.size ++ ", .. \x7d"

end Environment

end ModemRelay.Simulation
