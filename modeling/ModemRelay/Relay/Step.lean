import ModemRelay.Failure
import ModemRelay.Relay.Basic
import ModemRelay.Relay.Notice

/-! How the relay answers a line, a timer or a change of mode.

`Relay.step` is a function of the relay and its input alone: it gives the next relay and the list
of actions, in order, that its surroundings are asked for. Whether a line is then accepted changes
nothing here; `Relay.handle` carries the actions out and counts the lines that were taken. A step
arms at most one timer, whose handle is known beforehand, so the step is told it.

| line from  | ward-model     | pass-through   | split-verify                  |
|------------|----------------|----------------|-------------------------------|
| the client | to the model   | to the modem   | to the modem and to the model |
| the modem  | dropped        | to the client  | paired with a model answer    |
| the model  | to the client  | dropped        | paired with a modem answer    |

Answers are paired by position, always with the oldest pending exchange. Of a pair the client gets
the model's answer. -/

namespace ModemRelay.Relay

/-- Something that happens to the relay. -/
inductive Input where
  /-- A line arrives from an endpoint. -/
  | line (source : Endpoint) (line : String)
  | timer (exchange : ExchangeId)
  | setMode (mode : Mode)
  deriving DecidableEq

/-- Something the relay asks its surroundings for. -/
inductive Action where
  /-- Hand a line to an endpoint. -/
  | send (target : Endpoint) (line : String)
  /-- Count a line for the modem as refused, there being no modem. -/
  | undeliverable (line : String) (mode : Mode)
  | arm (delay : Duration) (exchange : ExchangeId)
  | cancel (timer : TimerHandle)
  | report (failure : Failure)
  | note (notice : Notice)
  deriving DecidableEq

/-- Hands a line to an endpoint, noting it first. -/
def offer (target : Endpoint) (line : String) : List Action :=
  [.note (.sending target line), .send target line]

/-- Hands a line to the modem, where there is one. -/
def offerToModem (r : Relay) (line : String) : List Action :=
  if r.hasModem then offer .modem line else [.undeliverable line r.mode]

/-- Drops a line from a source that the mode does not listen to. -/
def dropLine (r : Relay) (source : Endpoint) (line : String) : Relay × List Action :=
  ({ r with tally.droppedLines := r.tally.droppedLines + 1 },
    [.note (.dropped source r.mode line)])

/-- Compares the two answers to a command and gives the client the model's. -/
def complete (r : Relay) (modem model : String) : Relay × List Action :=
  if modem = model then
    ({ r with tally.matched := r.tally.matched + 1 },
      .note (.verified model) :: offer .modemManager model)
  else
    ({ r with tally.mismatched := r.tally.mismatched + 1 },
      .note (.unverified modem model) :: .report (.mismatch modem model) ::
        offer .modemManager model)

/-- What a command from the client asks for. -/
def onManagerLine (r : Relay) (line : String) : List Action :=
  match r.mode with
  | .wardModel => offer .model line
  | .passThrough => r.offerToModem line
  | .splitVerify => r.offerToModem line ++ offer .model line

/-- Lets go of a modem answer to an exchange that a change of mode has completed. -/
def dropLate (r : Relay) (line : String) : Relay × List Action :=
  ({ r with
      owedModemLines := r.owedModemLines - 1
      tally.lateModemLines := r.tally.lateModemLines + 1 },
    [.note (.lateDropped (r.owedModemLines - 1) line)])

/-- Calls off the timer of an exchange that the modem has answered. -/
def callOff : Option TimerHandle → List Action
  | some timer => [.note (.answeredInTime timer), .cancel timer]
  | none => []

/-- Pairs a modem line with the oldest model answer, or keeps it until the model answers. -/
def pairModemLine (r : Relay) (line : String) : Relay × List Action :=
  match r.pending.popAwaitingModem with
  | some (⟨_, _, some model, timer⟩, rest) =>
    let (r, actions) := { r with pending := rest }.complete line model
    (r, callOff timer ++ actions)
  | _ =>
    ({ r with pending := r.pending.pushModem line },
      [.note (.modemFirst r.pending.nextId (r.pending.size + 1))])

/-- What a line from the modem leads to. -/
def onModemLine (r : Relay) (line : String) : Relay × List Action :=
  match r.mode with
  | .splitVerify => r.pairModemLine line
  | .wardModel => if 0 < r.owedModemLines then r.dropLate line else r.dropLine .modem line
  | .passThrough =>
    if 0 < r.owedModemLines then r.dropLate line else (r, offer .modemManager line)

/-- Pairs a model line with the oldest modem answer, or keeps it, with a timer, until the modem
answers. -/
def pairModelLine (r : Relay) (nextTimer : TimerHandle) (line : String) : Relay × List Action :=
  match r.pending.popAwaitingModel with
  | some (⟨_, some modem, _, _⟩, rest) => { r with pending := rest }.complete modem line
  | _ =>
    ({ r with pending := r.pending.pushModel line nextTimer },
      [.arm r.config.responseTimeout r.pending.nextId,
        .note (.modelFirst r.pending.nextId (r.pending.size + 1) r.config.responseTimeout)])

/-- What a line from the model leads to. -/
def onModelLine (r : Relay) (nextTimer : TimerHandle) (line : String) : Relay × List Action :=
  match r.mode with
  | .wardModel => (r, offer .modemManager line)
  | .passThrough => r.dropLine .model line
  | .splitVerify => r.pairModelLine nextTimer line

/-- Gives up on the modem's answer to an exchange. A timer of an exchange that is no longer pending
is ignored. -/
def onTimer (r : Relay) (exchange : ExchangeId) : Relay × List Action :=
  match r.pending.remove exchange with
  | some (⟨_, none, some model, _⟩, rest) =>
    ({ r with pending := rest, tally.timedOut := r.tally.timedOut + 1 },
      .note (.timedOut exchange model) :: .report (.timeout model) :: offer .modemManager model)
  | _ =>
    ({ r with tally.staleTimeouts := r.tally.staleTimeouts + 1 }, [.note (.staleTimer exchange)])

/-- What a change to the mode `next` asks for a pending exchange. One that the model has answered
is a timeout, and the client gets the model's answer. A modem answer goes to the client if the modem
is about to be the one the client talks to, and is discarded otherwise. -/
def drainActions (next : Mode) (e : Exchange) : List Action :=
  match e.modelValue with
  | some model =>
    (e.timer.toList.map .cancel) ++
      .note (.abandoned e.id) :: .report (.timeout model) :: offer .modemManager model
  | none =>
    match next, e.modemValue with
    | .passThrough, some modem => .note (.forwarded e.id next) :: offer .modemManager modem
    | _, modem => [.note (.discarded e.id modem)]

/-- Empties the pending queue before a change to the mode `next`. From then on the modem owes an
answer to every exchange that the model had answered. -/
def drain (r : Relay) (next : Mode) : Relay × List Action :=
  let pending := r.pending.toList
  let abandoned := pending.countP (·.modelValue.isSome)
  if pending.isEmpty then
    (r, [])
  else
    ({ r with
        pending := r.pending.clear
        owedModemLines := r.owedModemLines + abandoned
        tally.drained := r.tally.drained + pending.length
        tally.timedOut := r.tally.timedOut + abandoned },
      .note (.draining pending.length) :: pending.flatMap (drainActions next))

/-- Changes the mode, unless it needs a modem and there is none. The pending exchanges are drained
first. Nothing is owed once answers are compared anew. -/
def changeMode (r : Relay) (mode : Mode) : Relay × List Action :=
  if mode.requiresModem && !r.hasModem then
    (r, [.note (.modeUnavailable mode r.mode)])
  else if mode = r.mode then
    (r, [])
  else
    let (r', actions) := r.drain mode
    ({ r' with
        mode
        owedModemLines := if mode = .splitVerify then 0 else r'.owedModemLines },
      actions ++ [.note (.modeSet r.mode mode)])

/-- The relay after an input, and the actions it asks for. The timer, if one is armed, gets the
handle `nextTimer`. -/
def step (r : Relay) (nextTimer : TimerHandle) : Input → Relay × List Action
  | .line source line =>
    let (r, actions) :=
      match source with
      | .modemManager => (r, r.onManagerLine line)
      | .modem => r.onModemLine line
      | .model => r.onModelLine nextTimer line
    (r, .note (.received source line) :: actions)
  | .timer exchange => r.onTimer exchange
  | .setMode mode => r.changeMode mode

/-- The relay where its surroundings have stopped half way through a step that leads to `next`. The
number that an exchange was to get stays taken. -/
def halted (r next : Relay) (deliveries : Deliveries) : Relay :=
  { r with pending := { r.pending with nextId := next.pending.nextId }, deliveries }

end ModemRelay.Relay
