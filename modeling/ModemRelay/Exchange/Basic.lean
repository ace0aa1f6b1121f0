/-! One command's answer, seen from one of its two sources so far.

An exchange starts when the first of the modem and the model answers and ends when the second does
or its time runs out. -/

namespace ModemRelay

/-- The lasting number of an exchange. -/
structure ExchangeId where
  val : Nat
  deriving DecidableEq

/-- The number under which a timer is armed and cancelled. -/
structure TimerHandle where
  val : Nat
  deriving DecidableEq

instance : Inhabited TimerHandle := ⟨⟨0⟩⟩

def ExchangeId.text (id : ExchangeId) : String := "exchange#" ++ toString id.val

def TimerHandle.text (handle : TimerHandle) : String := "timer#" ++ toString handle.val

/-- A half-observed answer: its number, what the modem and the model said, and the timer that
bounds the wait for the modem. -/
structure Exchange where
  id : ExchangeId
  modemValue : Option String
  modelValue : Option String
  timer : Option TimerHandle
  deriving DecidableEq

namespace Exchange

/-- Whether the model has answered and the modem has not. -/
def awaitsModem (e : Exchange) : Bool := e.modelValue.isSome && e.modemValue.isNone

/-- Whether the modem has answered and the model has not. -/
def awaitsModel (e : Exchange) : Bool := e.modemValue.isSome && e.modelValue.isNone

/-- The exchange that the modem's answer opens. -/
def ofModem (id : ExchangeId) (value : String) : Exchange := ⟨id, some value, none, none⟩

/-- The exchange that the model's answer opens. -/
def ofModel (id : ExchangeId) (value : String) (timer : TimerHandle) : Exchange :=
  ⟨id, none, some value, some timer⟩

@[simp] theorem awaitsModem_ofModem (id value) : (ofModem id value).awaitsModem = false := rfl

@[simp] theorem awaitsModel_ofModem (id value) : (ofModem id value).awaitsModel = true := rfl

@[simp] theorem awaitsModem_ofModel (id value timer) :
    (ofModel id value timer).awaitsModem = true := rfl

@[simp] theorem awaitsModel_ofModel (id value timer) :
    (ofModel id value timer).awaitsModel = false := rfl

end Exchange

end ModemRelay
