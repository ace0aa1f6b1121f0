import ModemRelay.Simulation.Peers

/-! A simulated session: a relay among its peers, and the loop that takes one event at a time off
the agenda and hands it to the relay. -/

namespace ModemRelay.Simulation

/-- What a session is built from. Without a modem it runs on the model alone. -/
structure Session.Config where
  seed : UInt64 := 0
  relay : Relay.Config := {}
  modem : Option Responder.Config := none
  model : Responder.Config := {}

/-- A relay, its peers, and how many events have been handled. -/
structure Session where
  relay : Relay
  peers : Peers
  steps : Nat := 0

namespace Session

/-- How many events a run handles at most. -/
def maxSteps : Nat := 100000

/-- The session at the start of time, in the ward-model mode. -/
def new (config : Config) : Session where
  relay := .new config.relay config.modem.isSome
  peers := {
    env := .ofSeed config.seed
    modem := { config := config.modem.getD {} }
    model := { config := config.model } }

def now (s : Session) : Duration := s.peers.env.now

/-- What happens when. -/
def agenda (s : Session) : Agenda := s.peers.env.agenda

def transcript (s : Session) : Array Observed := s.peers.env.transcript

/-- Changes the shared environment. -/
def mapEnv (f : Environment → Environment) (s : Session) : Session :=
  { s with peers := { s.peers with env := f s.peers.env } }

/-- Hands an input to the relay. -/
def feed (s : Session) (input : Relay.Input) : Outcome Session Unit :=
  (s.relay.handle Peers.host input s.peers).mapState fun (relay, peers) => { s with relay, peers }

/-- Asks for a mode now, without an event. The result is the mode after that. -/
def setMode (s : Session) (mode : Mode) : Outcome Session Mode :=
  (s.feed (.setMode mode)).andThen fun () s =>
    .done s.relay.mode (s.mapEnv (·.record (.modeChanged mode s.relay.mode)))

def schedule (s : Session) (delay : Duration) (event : Relay.Input) : Outcome Session Unit :=
  ((s.peers.env.schedule delay event).map fun _ => ()).mapState fun env =>
    { s with peers := { s.peers with env } }

def inject (s : Session) (delay : Duration) (source : Endpoint) (line : String) :
    Outcome Session Unit :=
  s.schedule delay (.line source line)

def command (s : Session) (delay : Duration) (line : String) : Outcome Session Unit :=
  s.inject delay .modemManager line

def scheduleMode (s : Session) (delay : Duration) (mode : Mode) : Outcome Session Unit :=
  s.schedule delay (.setMode mode)

/-- Hands an event that is due to the relay. -/
def dispatch (s : Session) (due : Due) : Outcome Session Unit :=
  match due.event with
  | .line source line => (s.mapEnv (·.record (.received source line))).feed due.event
  | .timer exchange => (s.mapEnv (·.record (.fired ⟨due.key⟩ exchange))).feed due.event
  | .setMode mode => (s.setMode mode).map fun _ => ()

/-- Handles the earliest event. The result tells whether there was one. -/
def step (s : Session) : Outcome Session Bool :=
  match s.peers.env.agenda.popNext with
  | none => .done false s
  | some (due, agenda) =>
    (dispatch { s.mapEnv ({ · with agenda }) with steps := s.steps + 1 } due).map fun () => true

/-- Handles events until none is left or the budget is used up. The result counts on from
`handled`. -/
def runSteps : (budget handled : Nat) → Session → Outcome Session Nat
  | 0, handled, s => .done handled s
  | budget + 1, handled, s =>
    match s.step with
    | .done true s => runSteps budget (handled + 1) s
    | .done false s => .done handled s
    | .overflow s => .overflow s

/-- Handles events until none is left, or `maxSteps` of them, which the log then says. The result
is how many. -/
def run (s : Session) : Outcome Session Nat :=
  (runSteps maxSteps 0 s).andThen fun handled s =>
    .done handled <|
      if handled = maxSteps then
        { s with peers := s.peers.note (.stopped s.peers.env.random.seed maxSteps) }
      else
        s

/-- Handles events due by the deadline until none is left or the budget is used up. -/
def runStepsUntil (deadline : Duration) : (budget handled : Nat) → Session → Outcome Session Nat
  | 0, handled, s => .done handled s
  | budget + 1, handled, s =>
    match s.peers.env.agenda.nextDue? with
    | none => .done handled s
    | some due =>
      if due ≤ deadline then
        match s.step with
        | .done true s => runStepsUntil deadline budget (handled + 1) s
        | .done false s => .done handled s
        | .overflow s => .overflow s
      else
        .done handled s

/-- Handles all events due by the deadline, those they lead to included, and then moves the clock
to the deadline. No more events are handled than the weight of the agenda. -/
def runUntil (s : Session) (deadline : Duration) : Outcome Session Nat :=
  (runStepsUntil deadline s.peers.env.agenda.weight 0 s).andThen fun handled s =>
    .done handled
      (s.mapEnv fun env => { env with agenda := env.agenda.advanceTo deadline })

/-- The lines an endpoint was sent, in order. -/
def sentTo (s : Session) (endpoint : Endpoint) : List String :=
  s.transcript.toList.filterMap fun o =>
    match o.trace with
    | .sent target line => if target = endpoint then some line else none
    | _ => none

def delivered (s : Session) : List String := s.sentTo .modemManager

/-- The failures, in the order of their reports. -/
def failures (s : Session) : FailureLog where
  entries := s.transcript.filterMap fun o =>
    match o.trace with
    | .failed f => some f
    | _ => none

end Session

end ModemRelay.Simulation
