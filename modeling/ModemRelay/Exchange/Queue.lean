import ModemRelay.Exchange.Basic
import ModemRelay.Fifo

/-! The exchanges that wait for their second answer, oldest first.

Exchanges join at the end under numbers that are never used twice. They leave from the head, when
the head waits for the given side, by their number from anywhere, or all at once. Each operation is
described through `toList`. -/

namespace ModemRelay

/-- The pending exchanges and the number the next one gets. -/
structure PendingQueue where
  entries : Fifo Exchange := .empty
  nextId : ExchangeId := ⟨0⟩

namespace PendingQueue

instance : Inhabited PendingQueue := ⟨{}⟩

/-- The pending exchanges, oldest first. -/
def toList (q : PendingQueue) : List Exchange := q.entries.toList

def size (q : PendingQueue) : Nat := q.entries.size

def isEmpty (q : PendingQueue) : Bool := q.entries.isEmpty

def head? (q : PendingQueue) : Option Exchange := q.entries.head?

def get? (q : PendingQueue) (id : ExchangeId) : Option Exchange :=
  q.entries.find? (·.id == id)

/-- Adds an exchange and moves on to the next number. -/
private def append (q : PendingQueue) (e : Exchange) : PendingQueue where
  entries := q.entries.push e
  nextId := ⟨q.nextId.val + 1⟩

/-- Opens an exchange with the modem's value. Its number is `nextId`. -/
def pushModem (q : PendingQueue) (value : String) : PendingQueue :=
  q.append (.ofModem q.nextId value)

/-- Opens an exchange with the model's value, guarded by a timer. Its number is `nextId`. -/
def pushModel (q : PendingQueue) (value : String) (timer : TimerHandle) : PendingQueue :=
  q.append (.ofModel q.nextId value timer)

/-- Takes the head off where it has the property, and otherwise nothing. -/
private def popIf (q : PendingQueue) (p : Exchange → Bool) : Option (Exchange × PendingQueue) :=
  match q.head? with
  | some e => if p e then some (e, { q with entries := q.entries.tail }) else none
  | none => none

/-- Takes the head off where it waits for the modem. -/
def popAwaitingModem (q : PendingQueue) : Option (Exchange × PendingQueue) :=
  q.popIf (·.awaitsModem)

/-- Takes the head off where it waits for the model. -/
def popAwaitingModel (q : PendingQueue) : Option (Exchange × PendingQueue) :=
  q.popIf (·.awaitsModel)

/-- Takes out the exchange of this number, wherever it stands. -/
def remove (q : PendingQueue) (id : ExchangeId) : Option (Exchange × PendingQueue) :=
  (q.get? id).map fun e => (e, { q with entries := q.entries.eraseP (·.id == id) })

/-- Takes out every exchange. Numbers go on from where they were. -/
def clear (q : PendingQueue) : PendingQueue := { q with entries := .empty }

@[simp] theorem toList_default : ({} : PendingQueue).toList = [] := rfl

theorem size_eq (q : PendingQueue) : q.size = q.toList.length := q.entries.size_eq_length

theorem isEmpty_eq (q : PendingQueue) : q.isEmpty = q.toList.isEmpty := q.entries.isEmpty_eq

theorem head?_eq (q : PendingQueue) : q.head? = q.toList.head? := q.entries.head?_eq

theorem get?_eq (q : PendingQueue) (id : ExchangeId) :
    q.get? id = q.toList.find? (·.id == id) := q.entries.find?_eq _

@[simp] theorem toList_pushModem (q : PendingQueue) (value : String) :
    (q.pushModem value).toList = q.toList ++ [.ofModem q.nextId value] := by
  simp [pushModem, append, toList]

@[simp] theorem toList_pushModel (q : PendingQueue) (value : String) (timer : TimerHandle) :
    (q.pushModel value timer).toList = q.toList ++ [.ofModel q.nextId value timer] := by
  simp [pushModel, append, toList]

@[simp] theorem toList_clear (q : PendingQueue) : q.clear.toList = [] := rfl

@[simp] theorem nextId_pushModem (q : PendingQueue) (value : String) :
    (q.pushModem value).nextId = ⟨q.nextId.val + 1⟩ := rfl

@[simp] theorem nextId_pushModel (q : PendingQueue) (value : String) (timer : TimerHandle) :
    (q.pushModel value timer).nextId = ⟨q.nextId.val + 1⟩ := rfl

@[simp] theorem nextId_clear (q : PendingQueue) : q.clear.nextId = q.nextId := rfl

private theorem popIf_eq_some {q q' : PendingQueue} {p : Exchange → Bool} {e : Exchange}
    (h : q.popIf p = some (e, q')) :
    p e = true ∧ q.toList = e :: q'.toList ∧ q'.nextId = q.nextId := by
  unfold popIf at h
  rw [head?_eq] at h
  cases hl : q.toList with
  | nil => simp [hl] at h
  | cons x rest =>
    simp only [hl, List.head?_cons] at h
    split at h
    · next hp =>
      cases h
      have := q.entries.toList_tail
      simp only [toList] at hl
      simp [toList, hp, this, hl]
    · cases h

private theorem popIf_eq_none {q : PendingQueue} {p : Exchange → Bool} (h : q.popIf p = none) :
    ∀ e ∈ q.toList.head?, p e = false := by
  unfold popIf at h
  rw [head?_eq] at h
  intro e he
  simp only [Option.mem_def] at he
  simp only [he] at h
  split at h
  · cases h
  · next hp => simpa using hp

theorem popAwaitingModem_eq_some {q q' : PendingQueue} {e : Exchange}
    (h : q.popAwaitingModem = some (e, q')) :
    e.awaitsModem = true ∧ q.toList = e :: q'.toList ∧ q'.nextId = q.nextId :=
  popIf_eq_some h

theorem popAwaitingModem_eq_none {q : PendingQueue} (h : q.popAwaitingModem = none) :
    ∀ e ∈ q.toList.head?, e.awaitsModem = false :=
  popIf_eq_none h

theorem popAwaitingModel_eq_some {q q' : PendingQueue} {e : Exchange}
    (h : q.popAwaitingModel = some (e, q')) :
    e.awaitsModel = true ∧ q.toList = e :: q'.toList ∧ q'.nextId = q.nextId :=
  popIf_eq_some h

theorem popAwaitingModel_eq_none {q : PendingQueue} (h : q.popAwaitingModel = none) :
    ∀ e ∈ q.toList.head?, e.awaitsModel = false :=
  popIf_eq_none h

/-- A removal returns the pending exchange of the number and keeps the order of the others. -/
theorem remove_eq_some {q q' : PendingQueue} {id : ExchangeId} {e : Exchange}
    (h : q.remove id = some (e, q')) :
    q.get? id = some e ∧ q'.toList = q.toList.eraseP (·.id == id) ∧ q'.nextId = q.nextId := by
  unfold remove at h
  obtain ⟨a, ha, heq⟩ := Option.map_eq_some_iff.mp h
  cases heq
  simp [ha, toList]

end PendingQueue

end ModemRelay
