import ModemRelay.Conformance.Operation
import ModemRelay.Relay.Host

/-! The relay on a bench where timers fire by hand and all effects are observed. -/

namespace ModemRelay.Conformance

/-- What surrounds the relay on the bench: the timers by hand, and what has been observed. -/
structure Instruments where
  nextTimer : TimerHandle := ⟨0⟩
  /-- Timers neither fired nor cancelled, oldest first. -/
  live : List (TimerHandle × ExchangeId) := []
  /-- The exchanges of timers fired or cancelled, newest first. -/
  retired : List ExchangeId := []
  /-- How often a timer was cancelled that was not live. -/
  doubleCancels : Nat := 0
  observed : List Observation := []
  log : List Relay.Notice := []

namespace Instruments

def observe (i : Instruments) (o : Observation) : Instruments :=
  { i with observed := i.observed ++ [o] }

/-- Takes a timer off the live ones. -/
def cancel (i : Instruments) (timer : TimerHandle) : Instruments :=
  match i.live.find? (·.1 == timer) with
  | some (_, exchange) =>
    { i with live := i.live.eraseP (·.1 == timer), retired := exchange :: i.retired }
  | none => { i with doubleCancels := i.doubleCancels + 1 }

/-- The observation of a line for an endpoint. -/
def sighting : Endpoint → String → Observation
  | .modemManager => .toModemManager
  | .modem => .toModem
  | .model => .toModel

/-- The instruments as the surroundings of a relay. -/
def host : Relay.Host Instruments where
  send target line i := .done .accepted (i.observe (sighting target line))
  nextTimer i := i.nextTimer
  arm _ exchange i :=
    .done () { i with
      nextTimer := ⟨i.nextTimer.val + 1⟩
      live := i.live ++ [(i.nextTimer, exchange)] }
  cancel timer i := i.cancel timer
  report failure i := i.observe (.failed failure)
  note notice i := { i with log := i.log ++ [notice] }

end Instruments

/-- A relay on the bench. -/
structure Bench where
  relay : Relay
  instruments : Instruments := {}

namespace Bench

def new (hasModem : Bool) : Bench where
  relay := .new ⟨.ofMillis 0⟩ hasModem

/-- The number of an exchange that never was. -/
def noExchange : ExchangeId := ⟨18_446_744_073_709_551_615⟩

/-- Takes the oldest timer off the live ones, if there is one. -/
def retireOldest (i : Instruments) : Option (ExchangeId × Instruments) :=
  match i.live with
  | [] => none
  | (_, exchange) :: rest =>
    some (exchange, { i with live := rest, retired := exchange :: i.retired })

/-- What an operation tells the relay, if anything. -/
def input (i : Instruments) : Operation → Option (Relay.Input × Instruments)
  | .command word => some (.line .modemManager word.text, i)
  | .modemLine word => some (.line .modem word.text, i)
  | .modelLine word => some (.line .model word.text, i)
  | .fireOldest => (retireOldest i).map fun (exchange, i) => (.timer exchange, i)
  | .fireStale => some (.timer (i.retired.head?.getD noExchange), i)
  | .setMode mode => some (.setMode mode, i)

/-- The bench after an operation, and what the operation makes observable. -/
def apply (b : Bench) (op : Operation) : Bench × List Observation :=
  let fresh := { b.instruments with observed := [], log := [] }
  match input fresh op with
  | none => ({ b with instruments := fresh }, [])
  | some (input, i) =>
    let (relay, instruments) := (b.relay.handle Instruments.host input i).state
    ({ relay, instruments }, instruments.observed)

end Bench

end ModemRelay.Conformance
