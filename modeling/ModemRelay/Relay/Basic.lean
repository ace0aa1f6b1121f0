import ModemRelay.Duration
import ModemRelay.Endpoint
import ModemRelay.Exchange.Queue
import ModemRelay.Mode

/-! The relay's state: its settings, the mode, the pending exchanges and its counters. -/

namespace ModemRelay

/-- The counters that the relay's own decisions move. -/
structure Tally where
  matched : Nat := 0
  mismatched : Nat := 0
  /-- Exchanges the modem did not answer in time. -/
  timedOut : Nat := 0
  /-- Timers that fired for exchanges no longer pending. -/
  staleTimeouts : Nat := 0
  /-- Lines from a source the mode does not listen to. -/
  droppedLines : Nat := 0
  /-- Exchanges flushed by a change of mode. -/
  drained : Nat := 0
  /-- Modem answers that came after a change of mode had completed their exchange. -/
  lateModemLines : Nat := 0
  deriving DecidableEq

/-- The counters that depend on whether lines are accepted. -/
structure Deliveries where
  sentToModemManager : Nat := 0
  sentToModem : Nat := 0
  postedToModel : Nat := 0
  sendFailures : Nat := 0
  deriving DecidableEq

def Deliveries.accept (d : Deliveries) : Endpoint → Deliveries
  | .modemManager => { d with sentToModemManager := d.sentToModemManager + 1 }
  | .modem => { d with sentToModem := d.sentToModem + 1 }
  | .model => { d with postedToModel := d.postedToModel + 1 }

def Deliveries.refuse (d : Deliveries) : Deliveries :=
  { d with sendFailures := d.sendFailures + 1 }

structure Stats where
  tally : Tally
  deliveries : Deliveries
  deriving DecidableEq

/-- The counters with their names, in their fixed order. -/
def Stats.counters (s : Stats) : List (String × Nat) :=
  [ ("sent_to_modem_manager", s.deliveries.sentToModemManager),
    ("sent_to_modem", s.deliveries.sentToModem),
    ("posted_to_model", s.deliveries.postedToModel),
    ("matched", s.tally.matched),
    ("mismatched", s.tally.mismatched),
    ("timed_out", s.tally.timedOut),
    ("stale_timeouts", s.tally.staleTimeouts),
    ("dropped_lines", s.tally.droppedLines),
    ("drained", s.tally.drained),
    ("late_modem_lines", s.tally.lateModemLines),
    ("send_failures", s.deliveries.sendFailures) ]

/-- What stays fixed from the start. -/
structure Relay.Config where
  /-- How long the modem has to answer once the model has. -/
  responseTimeout : Duration := .ofMillis 30000
  deriving DecidableEq

/-- The relay between the client, a physical modem that may be missing, and the model. -/
structure Relay where
  config : Relay.Config
  hasModem : Bool
  mode : Mode := .wardModel
  pending : PendingQueue := {}
  /-- Modem answers still to come for exchanges that a change of mode completed. -/
  owedModemLines : Nat := 0
  tally : Tally := {}
  deliveries : Deliveries := {}

namespace Relay

/-- A relay at its start. Without a modem it never leaves the ward-model mode. -/
def new (config : Config) (hasModem : Bool) : Relay := { config, hasModem }

def stats (r : Relay) : Stats := ⟨r.tally, r.deliveries⟩

private def modeWord : Mode → String
  | .wardModel => "WardModel"
  | .passThrough => "PassThrough"
  | .splitVerify => "SplitVerify"

/-- A summary of the relay: mode, modem, number of pending exchanges and all counters. -/
def summary (r : Relay) : String :=
  let counters :=
    ", ".intercalate (r.stats.counters.map fun (name, n) => name ++ ": " ++ toString n)
  "AtTransceiver \x7b mode: " ++ modeWord r.mode ++
    ", has_modem: " ++ (if r.hasModem then "true" else "false") ++
    ", pending: " ++ toString r.pending.size ++
    ", stats: TransceiverStats \x7b " ++ counters ++ " \x7d, .. \x7d"

end Relay

end ModemRelay
