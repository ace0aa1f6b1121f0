import ModemRelay.Relay.Host

/-! Surroundings that write down all they are asked for.

Timers get consecutive handles. Lines for the endpoints named in `refusing` are refused and not
written down; all others are taken. -/

namespace ModemRelay.Relay

/-- Something a journal has written down. -/
inductive Journal.Entry where
  | sent (target : Endpoint) (line : String)
  | armed (timer : TimerHandle) (delay : Duration) (exchange : ExchangeId)
  | cancelled (timer : TimerHandle)
  | reported (failure : Failure)
  deriving DecidableEq

/-- The entries so far, oldest first, the failures among them and the log. -/
structure Journal where
  nextTimer : TimerHandle
  refusing : List Endpoint := []
  entries : Array Journal.Entry := #[]
  failures : FailureLog := {}
  log : Array Log.Record := #[]

namespace Journal

def write (j : Journal) (e : Entry) : Journal := { j with entries := j.entries.push e }

/-- Starts new pages for the entries and the log. -/
def turn (j : Journal) : Journal := { j with entries := #[], log := #[] }

/-- The journal as the surroundings of a relay. -/
def host : Host Journal where
  send target line j :=
    if target ∈ j.refusing then
      .done (.refused ⟨target.name⟩) j
    else
      .done .accepted (j.write (.sent target line))
  nextTimer j := j.nextTimer
  arm delay exchange j :=
    .done () { j.write (.armed j.nextTimer delay exchange) with
      nextTimer := ⟨j.nextTimer.val + 1⟩ }
  cancel timer j := j.write (.cancelled timer)
  report failure j :=
    { j.write (.reported failure) with
      failures := j.failures.report failure
      log := j.log.push failure.record }
  note notice j := { j with log := j.log.push notice.record }

end Journal

end ModemRelay.Relay
