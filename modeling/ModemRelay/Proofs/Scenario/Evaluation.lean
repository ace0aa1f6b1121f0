import ModemRelay.Scenario.Report

/-!
# Scenarios that can be evaluated

The least key of a queue is found by a recursion that does not reduce. A run that takes the first
of all keys instead comes to the same (`evaluate_eq`), and what it comes to can be decided.
-/

namespace ModemRelay

namespace Simulation

/-- Takes the earliest event off, going by the list of all places. -/
def Agenda.popFirst (a : Agenda) : Option (Due × Agenda) := do
  let slot ← a.queue.keys.head?
  let event ← a.queue[slot]?
  some (⟨slot.key, slot.due, event⟩, { a with
    now := max a.now slot.due
    queue := a.queue.erase slot
    dueOf := a.dueOf.erase slot.key })

theorem Agenda.popFirst_eq (a : Agenda) : a.popFirst = a.popNext := by
  rw [popFirst, popNext, Std.ExtTreeMap.minKey?_eq_head?_keys]

namespace Session

/-- Handles the earliest event, as `step` does. -/
def stepFirst (s : Session) : Outcome Session Bool :=
  match s.peers.env.agenda.popFirst with
  | none => .done false s
  | some (due, agenda) =>
    (dispatch { s.mapEnv ({ · with agenda }) with steps := s.steps + 1 } due).map fun () => true

theorem stepFirst_eq (s : Session) : s.stepFirst = s.step := by
  have hpop := Agenda.popFirst_eq s.peers.env.agenda
  unfold stepFirst step
  cases hnext : s.peers.env.agenda.popNext with
  | none => simp only [hpop, hnext]
  | some first => simp only [hpop, hnext]

/-- Handles events, as `runSteps` does. -/
def runFirst : (budget handled : Nat) → Session → Outcome Session Nat
  | 0, handled, s => .done handled s
  | budget + 1, handled, s =>
    match s.stepFirst with
    | .done true s => runFirst budget (handled + 1) s
    | .done false s => .done handled s
    | .overflow s => .overflow s

theorem runFirst_eq (budget handled : Nat) (s : Session) :
    runFirst budget handled s = runSteps budget handled s := by
  induction budget generalizing handled s with
  | zero => rfl
  | succ budget ih =>
    rw [runFirst, runSteps, stepFirst_eq]
    cases s.step with
    | done went s' =>
      cases went with
      | true => exact ih ..
      | false => rfl
    | overflow s' => rfl

end Session

end Simulation

namespace Scenario
open Simulation

/-- Runs the session of a scenario to its end, as `play` does. -/
def evaluate (s : Scenario) : Outcome Session Nat :=
  s.session.andThen fun () session =>
    (Session.runFirst Session.maxSteps 0 session).andThen fun handled session =>
      .done handled <|
        if handled = Session.maxSteps then
          { session with
            peers := session.peers.note
              (.stopped session.peers.env.random.seed Session.maxSteps) }
        else
          session

theorem evaluate_eq (s : Scenario) : s.evaluate = s.play := by
  unfold evaluate play
  congr 1
  funext _ session
  rw [Session.runFirst_eq]
  rfl

/-- A scenario that is evaluated to its end is one whose session ends so. -/
theorem play_eq_done (s : Scenario) (h : s.evaluate.result?.isSome = true) :
    ∃ n, s.play = .done n s.evaluate.state := by
  rw [← evaluate_eq]
  exact ⟨_, Outcome.eq_done h⟩

end Scenario

end ModemRelay
