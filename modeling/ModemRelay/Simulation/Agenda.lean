import ModemRelay.Outcome
import ModemRelay.Relay.Step
import Std.Data.ExtTreeMap

/-! The virtual clock and what is to happen when.

Events are kept by their due time and, among equal times, by the order in which they were scheduled.
Each is known by a key that is never used twice, and can be cancelled by it until it is taken off.
The clock never goes back: taking an event off moves it to the event's due time, unless it is
already past it (`popNext`), and it can be moved without taking anything off (`advanceTo`). -/

namespace ModemRelay.Simulation

/-- The place of an event: its due time, then its key. -/
structure Slot where
  due : Duration
  key : Nat
  deriving DecidableEq

def Slot.compare : Slot → Slot → Ordering :=
  compareLex (compareOn fun s => s.due.nanos) (compareOn Slot.key)

instance : Std.TransCmp Slot.compare :=
  inferInstanceAs <| Std.TransCmp <|
    compareLex (compareOn fun s : Slot => s.due.nanos) (compareOn Slot.key)

instance : Std.LawfulEqCmp Slot.compare where
  eq_of_compare {a b} h := by
    cases a; cases b
    simp only [Slot.compare, compareLex, compareOn, Ordering.then_eq_eq,
      Std.LawfulEqCmp.compare_eq_iff_eq] at h
    simp [Duration.ext h.1, h.2]

theorem Slot.compare_isLE {a b : Slot} :
    (Slot.compare a b).isLE = true ↔
      a.due.nanos < b.due.nanos ∨ a.due.nanos = b.due.nanos ∧ a.key ≤ b.key := by
  simp only [Slot.compare, compareLex, compareOn, Ordering.isLE_then_iff_and, Nat.isLE_compare,
    Nat.compare_eq_lt]
  omega

/-- An event that is due: the key it was scheduled under, its due time, and what happens. -/
structure Due where
  key : Nat
  time : Duration
  event : Relay.Input

/-- The clock, the events to come and the due time of each key that is still queued. -/
structure Agenda where
  now : Duration := .zero
  nextKey : Nat := 0
  queue : Std.ExtTreeMap Slot Relay.Input Slot.compare := ∅
  dueOf : Std.ExtTreeMap Nat Duration := ∅

namespace Agenda

instance : Inhabited Agenda := ⟨{}⟩

/-- Uses up a key. -/
def takeKey (a : Agenda) : Agenda := { a with nextKey := a.nextKey + 1 }

/-- Schedules an event after a delay. The result is its key, which is used up also where the event
would be due too late. -/
def schedule (a : Agenda) (delay : Duration) (event : Relay.Input) : Outcome Agenda Nat :=
  match a.now.add? delay with
  | some due =>
    .done a.nextKey { a with
      nextKey := a.nextKey + 1
      queue := a.queue.insert ⟨due, a.nextKey⟩ event
      dueOf := a.dueOf.insert a.nextKey due }
  | none => .overflow a.takeKey

/-- Takes an event off before it happens. The result says whether it was still queued. -/
def cancel (a : Agenda) (key : Nat) : Bool × Agenda :=
  match a.dueOf[key]? with
  | some due =>
    (a.queue.contains ⟨due, key⟩,
      { a with queue := a.queue.erase ⟨due, key⟩, dueOf := a.dueOf.erase key })
  | none => (false, a)

def nextDue? (a : Agenda) : Option Duration := a.queue.minKey?.map (·.due)

/-- Takes the earliest event off and moves the clock to its due time. -/
def popNext (a : Agenda) : Option (Due × Agenda) := do
  let slot ← a.queue.minKey?
  let event ← a.queue[slot]?
  some (⟨slot.key, slot.due, event⟩, { a with
    now := max a.now slot.due
    queue := a.queue.erase slot
    dueOf := a.dueOf.erase slot.key })

def advanceTo (a : Agenda) (time : Duration) : Agenda := { a with now := max a.now time }

def size (a : Agenda) : Nat := a.queue.size

/-- How many events an event can lead to, itself included: a command one answer each of the modem
and the model, and a model answer one timer. -/
def weightOf : Relay.Input → Nat
  | .line .modemManager _ => 4
  | .line .model _ => 2
  | .line .modem _ | .timer _ | .setMode _ => 1

/-- How many events the queued events can lead to, themselves included. -/
def weight (a : Agenda) : Nat := a.queue.foldl (fun sum _ event => sum + weightOf event) 0

theorem popNext_eq_none_iff {a : Agenda} : a.popNext = none ↔ a.queue = ∅ := by
  rw [← Std.ExtTreeMap.minKey?_eq_none_iff]
  unfold popNext
  cases h : a.queue.minKey? with
  | none => simp
  | some slot =>
    have hm := Std.ExtTreeMap.minKey?_mem h
    simp [Std.ExtTreeMap.getElem?_eq_some_getElem hm]

/-- The event taken off is the first in the order of places. -/
theorem popNext_eq_some {a a' : Agenda} {due : Due} (h : a.popNext = some (due, a')) :
    a.queue[(⟨due.time, due.key⟩ : Slot)]? = some due.event ∧
      ∀ slot ∈ a.queue, (Slot.compare ⟨due.time, due.key⟩ slot).isLE = true := by
  unfold popNext at h
  simp only [Option.bind_eq_bind, Option.bind_eq_some_iff, Option.some.injEq, Prod.mk.injEq] at h
  obtain ⟨slot, hslot, event, hevent, rfl, -⟩ := h
  exact ⟨hevent, (Std.ExtTreeMap.minKey?_eq_some_iff_mem_and_forall.mp hslot).2⟩

end Agenda

end ModemRelay.Simulation
