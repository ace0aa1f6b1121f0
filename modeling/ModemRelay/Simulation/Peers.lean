import ModemRelay.Relay.Host
import ModemRelay.Simulation.Responder

/-! The simulated surroundings of a relay.

Each party writes into the transcript what it is asked for. The client only listens; the modem and
the model are responders, whose answers are scheduled as lines from them. -/

namespace ModemRelay.Simulation

/-- What a session writes to its log. -/
inductive Notice where
  /-- A notice of the relay. -/
  | relay (notice : Relay.Notice)
  /-- A reported failure. -/
  | failure (failure : Failure)
  /-- A run was stopped after so many steps. -/
  | stopped (seed : UInt64) (steps : Nat)
  deriving DecidableEq

def Notice.record : Notice → Log.Record
  | relay notice => notice.record
  | failure f => f.record
  | stopped seed steps =>
    { level := .warn
      source := .session
      message := "simulation stopped after " ++ toString steps ++ " steps"
      fields := [("seed", .plain (toString seed))] }

/-- The parties around a relay, the environment they share, and the log. -/
structure Peers where
  env : Environment
  modem : Responder
  model : Responder
  /-- The endpoints that take no more lines. -/
  closed : List Endpoint := []
  log : Array Notice := #[]

namespace Peers

/-- Takes a line for an endpoint that is not closed, writes it down and schedules its answer. -/
def send (target : Endpoint) (line : String) (p : Peers) : Outcome Peers Reply :=
  if target ∈ p.closed then
    .done (.refused ⟨target.label⟩) p
  else
    let env := p.env.record (.sent target line)
    let heard : Outcome Peers Unit :=
      match target with
      | .modemManager => .done () { p with env }
      | .modem =>
        (p.modem.hear .modem line env).mapState fun (modem, env) => { p with modem, env }
      | .model =>
        (p.model.hear .model line env).mapState fun (model, env) => { p with model, env }
    heard.map fun () => .accepted

def arm (delay : Duration) (exchange : ExchangeId) (p : Peers) : Outcome Peers TimerHandle :=
  (p.env.arm delay exchange).mapState fun env => { p with env }

def disarm (timer : TimerHandle) (p : Peers) : Peers := { p with env := p.env.disarm timer }

def report (f : Failure) (p : Peers) : Peers := { p with env := p.env.record (.failed f) }

def note (n : Notice) (p : Peers) : Peers := { p with log := p.log.push n }

/-- The peers as the surroundings of a relay. Failures go to the transcript and to the log. -/
def host : Relay.Host Peers where
  send := send
  nextTimer p := ⟨p.env.agenda.nextKey⟩
  arm delay exchange p := (p.arm delay exchange).map fun _ => ()
  cancel := disarm
  report f p := (p.report f).note (.failure f)
  note n p := p.note (.relay n)

end Peers

end ModemRelay.Simulation
