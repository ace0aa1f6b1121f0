/-! First-in first-out queues whose ends are both cheap to reach.

The queue keeps its oldest elements in `front` and its newest, latest first, in `back`. All that an
operation does is said through the one view `toList`, oldest element first (`toList_push`,
`head?_eq`, `toList_tail`, `find?_eq`, `toList_eraseP`). -/

namespace ModemRelay

/-- A queue of known size, nonempty exactly when `front` is. -/
structure Fifo (α : Type u) where
  front : List α
  back : List α
  size : Nat
  size_eq : size = front.length + back.length
  back_eq_nil : front = [] → back = []

namespace Fifo

variable {α : Type u}

def toList (q : Fifo α) : List α := q.front ++ q.back.reverse

def empty : Fifo α := ⟨[], [], 0, rfl, fun _ => rfl⟩

instance : Inhabited (Fifo α) := ⟨empty⟩

/-- The queue of a front and a back, which becomes the front where that is empty. -/
def balance (front back : List α) (size : Nat) (h : size = front.length + back.length) :
    Fifo α :=
  match front with
  | [] => ⟨back.reverse, [], size, by simpa using h, fun _ => rfl⟩
  | x :: rest => ⟨x :: rest, back, size, h, fun h => nomatch h⟩

def isEmpty (q : Fifo α) : Bool := q.front.isEmpty

def head? (q : Fifo α) : Option α := q.front.head?

def push (q : Fifo α) (x : α) : Fifo α :=
  balance q.front (x :: q.back) (q.size + 1) (by simp [q.size_eq]; omega)

/-- Drops the oldest element, where there is one. -/
def tail (q : Fifo α) : Fifo α :=
  balance q.front.tail q.back (q.size - 1) <| by
    have h := q.size_eq
    cases hf : q.front with
    | nil => simp [hf, q.back_eq_nil hf] at h; simp [h, q.back_eq_nil hf]
    | cons x rest => simp [hf] at h; simp; omega

def find? (p : α → Bool) (q : Fifo α) : Option α :=
  match q.front.find? p with
  | some x => some x
  | none => q.back.reverse.find? p

/-- Drops the oldest element of the kind, where there is one. -/
def eraseP (p : α → Bool) (q : Fifo α) : Fifo α :=
  if h : q.front.any p then
    balance (q.front.eraseP p) q.back (q.size - 1) <| by
      have := List.length_eraseP (p := p) (l := q.front)
      have : 0 < q.front.length := by
        cases hf : q.front with
        | nil => simp [hf] at h
        | cons x rest => simp
      have := q.size_eq
      grind
  else if h : q.back.any p then
    balance q.front (q.back.reverse.eraseP p).reverse (q.size - 1) <| by
      have := List.length_eraseP (p := p) (l := q.back.reverse)
      have : 0 < q.back.length := by
        cases hb : q.back with
        | nil => simp [hb] at h
        | cons x rest => simp
      have := q.size_eq
      grind
  else
    q

@[simp] theorem toList_empty : (empty : Fifo α).toList = [] := rfl

theorem toList_balance (front back : List α) (size h) :
    (balance front back size h).toList = front ++ back.reverse := by
  cases front <;> simp [balance, toList]

theorem size_eq_length (q : Fifo α) : q.size = q.toList.length := by
  simp [toList, q.size_eq]

theorem isEmpty_eq (q : Fifo α) : q.isEmpty = q.toList.isEmpty := by
  unfold isEmpty toList
  cases hf : q.front with
  | nil => simp [q.back_eq_nil hf]
  | cons x rest => simp

theorem head?_eq (q : Fifo α) : q.head? = q.toList.head? := by
  unfold head? toList
  cases hf : q.front with
  | nil => simp [q.back_eq_nil hf]
  | cons x rest => simp

@[simp] theorem toList_push (q : Fifo α) (x : α) : (q.push x).toList = q.toList ++ [x] := by
  rw [push, toList_balance]
  simp [toList]

@[simp] theorem toList_tail (q : Fifo α) : q.tail.toList = q.toList.tail := by
  unfold tail
  rw [toList_balance]
  unfold toList
  cases hf : q.front with
  | nil => simp [q.back_eq_nil hf]
  | cons x rest => simp

theorem find?_eq (p : α → Bool) (q : Fifo α) : q.find? p = q.toList.find? p := by
  unfold find? toList
  rw [List.find?_append]
  cases q.front.find? p <;> simp

@[simp] theorem toList_eraseP (p : α → Bool) (q : Fifo α) :
    (q.eraseP p).toList = q.toList.eraseP p := by
  unfold eraseP
  split
  · next h =>
    obtain ⟨x, hx, hp⟩ := List.any_eq_true.mp h
    rw [toList_balance, toList, List.eraseP_append_left hp _ hx]
  · next h =>
    have hfront : ∀ x ∈ q.front, ¬p x = true := by simpa using h
    split
    · next hb => rw [toList_balance, toList, List.eraseP_append_right _ hfront]; simp
    · next hb =>
      have hback : ∀ x ∈ q.back, ¬p x = true := by simpa using hb
      rw [List.eraseP_of_forall_not]
      intro x hx
      simp only [toList, List.mem_append, List.mem_reverse] at hx
      exact hx.elim (hfront x) (hback x)

end Fifo

end ModemRelay
