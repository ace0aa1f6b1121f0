/-! What is written to the log: a level, the part of the program it comes from, a message, and
named values. -/

namespace ModemRelay.Log

/-- How much a record matters, the most pressing last. -/
inductive Level where
  | trace
  | debug
  | info
  | warn
  | error
  deriving DecidableEq

def Level.name : Level → String
  | trace => "TRACE"
  | debug => "DEBUG"
  | info => "INFO"
  | warn => "WARN"
  | error => "ERROR"

def Level.rank : Level → Nat
  | trace => 0
  | debug => 1
  | info => 2
  | warn => 3
  | error => 4

/-- The part of the program a record comes from. -/
inductive Source where
  | relay
  | failures
  | session
  | scenario
  | replay
  deriving DecidableEq

def Source.path : Source → String
  | relay => "wardmodem_core::transceiver"
  | failures => "wardmodem_core::report"
  | session => "wardmodem_harness::world"
  | scenario => "wardmodem_harness::scenario"
  | replay => "wardmodem_replay"

/-- The value of a field: text that a console puts between quotes, or text shown as it is. -/
inductive Value where
  | quoted (s : String)
  | plain (s : String)
  deriving DecidableEq

def Value.text : Value → String
  | quoted s | plain s => s

structure Record where
  level : Level
  source : Source
  message : String
  fields : List (String × Value) := []
  deriving DecidableEq

end ModemRelay.Log
