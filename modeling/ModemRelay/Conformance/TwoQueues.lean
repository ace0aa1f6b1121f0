import ModemRelay.Conformance.Operation

/-! The relay at its simplest: two queues of answers, one for each source.

Whenever both queues hold an answer their heads are a pair. There are no numbers and no timers: the
oldest timer is that of the oldest model answer. -/

namespace ModemRelay.Conformance

/-- The machine: answers that wait for their counterpart, and how many modem answers are still to
come for model answers that a change of mode has flushed. -/
structure TwoQueues where
  hasModem : Bool
  mode : Mode := .wardModel
  modemAnswers : List String := []
  modelAnswers : List String := []
  owed : Nat := 0

namespace TwoQueues

/-- How many answers wait for their counterpart. -/
def pending (m : TwoQueues) : Nat := m.modemAnswers.length + m.modelAnswers.length

/-- Compares the answers of two queues pair by pair. The client gets the model's. -/
def pairs : List String → List String → List Observation
  | modem :: modems, model :: models =>
    (if modem = model then [] else [.failed (.mismatch modem model)]) ++
      .toModemManager model :: pairs modems models
  | _, _ => []

/-- Takes all pairs off the queues. -/
def pair (m : TwoQueues) : TwoQueues × List Observation :=
  ({ m with
      modemAnswers := m.modemAnswers.drop m.modelAnswers.length
      modelAnswers := m.modelAnswers.drop m.modemAnswers.length },
    pairs m.modemAnswers m.modelAnswers)

/-- A model answer whose modem answer did not come. -/
def giveUp (model : String) : List Observation :=
  [.failed (.timeout model), .toModemManager model]

/-- Flushes both queues and takes the mode. -/
def changeMode (m : TwoQueues) (mode : Mode) : TwoQueues × List Observation :=
  if (mode.requiresModem && !m.hasModem) || mode = m.mode then
    (m, [])
  else
    ({ m with
        mode
        modemAnswers := []
        modelAnswers := []
        owed := if mode = .splitVerify then 0 else m.owed + m.modelAnswers.length },
      m.modelAnswers.flatMap giveUp ++
        if mode = .passThrough then m.modemAnswers.map .toModemManager else [])

/-- The machine after an operation, and what the operation makes observable. -/
def apply (m : TwoQueues) : Operation → TwoQueues × List Observation
  | .command word =>
    (m, match m.mode with
      | .wardModel => [.toModel word.text]
      | .passThrough => [.toModem word.text]
      | .splitVerify => [.toModem word.text, .toModel word.text])
  | .modemLine word =>
    match m.mode with
    | .splitVerify => { m with modemAnswers := m.modemAnswers ++ [word.text] }.pair
    | mode =>
      if 0 < m.owed then
        ({ m with owed := m.owed - 1 }, [])
      else
        (m, if mode = .passThrough then [.toModemManager word.text] else [])
  | .modelLine word =>
    match m.mode with
    | .wardModel => (m, [.toModemManager word.text])
    | .passThrough => (m, [])
    | .splitVerify => { m with modelAnswers := m.modelAnswers ++ [word.text] }.pair
  | .fireOldest =>
    match m.modemAnswers, m.modelAnswers with
    | [], model :: rest => ({ m with modelAnswers := rest }, giveUp model)
    | _, _ => (m, [])
  | .fireStale => (m, [])
  | .setMode mode => m.changeMode mode

end TwoQueues

end ModemRelay.Conformance
