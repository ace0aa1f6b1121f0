import ModemRelay.Channel
import ModemRelay.Duration
import ModemRelay.Endpoint
import ModemRelay.Exchange.Basic
import ModemRelay.Log.Record
import ModemRelay.Mode
import ModemRelay.Text.Quoted

/-! What the relay notes in the log, as causes, and the record that each one is written as. -/

namespace ModemRelay.Relay

/-- Something the relay notes while it handles a line, a timer or a change of mode. -/
inductive Notice where
  | received (source : Endpoint) (line : String)
  | sending (target : Endpoint) (line : String)
  | refused (target : Endpoint) (line : String) (cause : ChannelClosed)
  | noModem (line : String) (mode : Mode)
  | modeUnavailable (requested current : Mode)
  | modeSet (old new : Mode)
  | dropped (source : Endpoint) (mode : Mode) (line : String)
  | lateDropped (owed : Nat) (line : String)
  | answeredInTime (timer : TimerHandle)
  | modemFirst (exchange : ExchangeId) (pending : Nat)
  | modelFirst (exchange : ExchangeId) (pending : Nat) (delay : Duration)
  | staleTimer (exchange : ExchangeId)
  | timedOut (exchange : ExchangeId) (model : String)
  | verified (model : String)
  | unverified (modem model : String)
  | draining (count : Nat)
  | abandoned (exchange : ExchangeId)
  | forwarded (exchange : ExchangeId) (next : Mode)
  | discarded (exchange : ExchangeId) (modem : Option String)
  deriving DecidableEq

namespace Notice

def level : Notice → Log.Level
  | received .. | sending .. | lateDropped .. | answeredInTime .. | modemFirst .. | modelFirst ..
  | staleTimer .. | verified .. => .debug
  | modeSet .. | draining .. | forwarded .. => .info
  | modeUnavailable .. | dropped .. | timedOut .. | unverified .. | abandoned ..
  | discarded .. => .warn
  | refused .. | noModem .. => .error

/-- A line between bars. -/
private def barred (line : String) : String := "|" ++ line ++ "|"

/-- The line that could not be handed over, and to whom. -/
private def notHandedOver (line : String) : Endpoint → String
  | .modemManager => "failed to send " ++ barred line ++ " to modem-manager"
  | .modem => "failed to send " ++ barred line ++ " to modem"
  | .model => "failed to post " ++ barred line ++ " to wardmodem"

def message : Notice → String
  | received source line =>
    "command \x7b" ++ source.label ++ " ==> []\x7d: " ++ barred line
  | sending target line =>
    "command \x7b[] ==> " ++ target.label ++ "\x7d: " ++ barred line
  | refused target line _ => notHandedOver line target
  | noModem line mode => "no modem channel for " ++ barred line ++ " in " ++ mode.name ++ " mode"
  | modeUnavailable .. => "cannot switch mode: no modem channel"
  | modeSet .. => "set transceiver mode"
  | dropped _ _ line => "dropping unexpected line " ++ barred line
  | lateDropped _ line => "dropping late modem answer to a drained exchange: " ++ barred line
  | answeredInTime _ => "modem answered in time, cancelling timer"
  | modemFirst .. => "modem answered first"
  | modelFirst _ _ delay => "wardmodem answered first, waiting " ++ delay.text ++ " for modem"
  | staleTimer _ => "ignoring timer for an exchange that is no longer pending"
  | timedOut _ model => "modem response timed out, forwarding wardmodem response " ++ barred model
  | verified model => "response verified: " ++ barred model
  | unverified .. => "response verification failed, wardmodem response takes precedence"
  | draining _ => "draining pending exchanges before mode change"
  | abandoned _ => "abandoning modem response on mode change"
  | forwarded _ next => "forwarding modem response on switch to " ++ next.name
  | discarded .. => "discarding unpaired modem response"

def fields : Notice → List (String × Log.Value)
  | received .. | sending .. | noModem .. | verified .. => []
  | refused _ _ cause => [("error", .plain cause.message)]
  | modeUnavailable requested current =>
    [("requested", .plain requested.name), ("current", .plain current.name)]
  | modeSet old new => [("from", .plain old.name), ("to", .plain new.name)]
  | dropped source mode _ => [("source", .quoted source.label), ("mode", .plain mode.name)]
  | lateDropped owed _ => [("owed", .plain (toString owed))]
  | answeredInTime timer => [("timer", .plain timer.text)]
  | modemFirst exchange pending | modelFirst exchange pending _ =>
    [("exchange", .plain exchange.text), ("pending", .plain (toString pending))]
  | staleTimer exchange | timedOut exchange _ | abandoned exchange | forwarded exchange _ =>
    [("exchange", .plain exchange.text)]
  | unverified modem model => [("modem", .quoted modem), ("model", .quoted model)]
  | draining count => [("count", .plain (toString count))]
  | discarded exchange modem =>
    [("exchange", .plain exchange.text), ("modem", .plain (Text.quoteOption modem))]

def record (n : Notice) : Log.Record where
  level := n.level
  source := .relay
  message := n.message
  fields := n.fields

end Notice

end ModemRelay.Relay
