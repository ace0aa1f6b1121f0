/-! The three parties the relay exchanges lines with. -/

namespace ModemRelay

/-- Where a line comes from or goes to. -/
inductive Endpoint where
  /-- The client that issues commands. -/
  | modemManager
  /-- The physical modem. -/
  | modem
  /-- The behavioural model. -/
  | model
  deriving DecidableEq, Inhabited

namespace Endpoint

def all : List Endpoint := [modemManager, modem, model]

/-- The name an endpoint has in a scenario. -/
def name : Endpoint → String
  | modemManager => "modem-manager"
  | modem => "modem"
  | model => "model"

def ofName? (s : String) : Option Endpoint := all.find? (·.name == s)

/-- The short name an endpoint has in log lines and error texts. -/
def label : Endpoint → String
  | modemManager => "mm"
  | modem => "modem"
  | model => "wardmodem"

theorem ofName?_name (e : Endpoint) : ofName? e.name = some e := by cases e <;> decide

end Endpoint

end ModemRelay
