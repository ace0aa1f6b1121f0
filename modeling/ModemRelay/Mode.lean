import ModemRelay.Text.Quoted

/-! The relay's operating modes and their names. -/

namespace ModemRelay

/-- How lines are routed between the client, the physical modem and the model. -/
inductive Mode where
  /-- The client talks to the model alone. -/
  | wardModel
  /-- The client talks to the physical modem, and the model is idle. -/
  | passThrough
  /-- Commands go to both, answers are compared, and the model's answer is forwarded. -/
  | splitVerify
  deriving DecidableEq, Inhabited

namespace Mode

def all : List Mode := [wardModel, passThrough, splitVerify]

/-- The position of a mode in `all`. -/
def index : Mode → Nat
  | wardModel => 0
  | passThrough => 1
  | splitVerify => 2

/-- Whether entering the mode needs a physical modem. -/
def requiresModem : Mode → Bool
  | wardModel => false
  | passThrough | splitVerify => true

def name : Mode → String
  | wardModel => "ward-model"
  | passThrough => "pass-through"
  | splitVerify => "split-verify"

def ofName? (s : String) : Option Mode := all.find? (·.name == s)

/-- The mode of this name, where upper and lower case of the ASCII letters count as one. -/
def ofNameAnyCase? (s : String) : Option Mode := ofName? (s.map Char.toLower)

/-- The text of the error for a name that no mode has. -/
def unknownName (s : String) : String := "unknown transceiver mode: " ++ Text.quote s

theorem mem_all (m : Mode) : m ∈ all := by cases m <;> decide

theorem all_getElem?_index (m : Mode) : all[m.index]? = some m := by cases m <;> rfl

theorem ofName?_name (m : Mode) : ofName? m.name = some m := by cases m <;> decide

end Mode

end ModemRelay
