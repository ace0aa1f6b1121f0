import Mathlib.Data.List.Nodup
import ModemRelay.Exchange.Queue

/-!
# The pending queue over its history

A pending queue is known from what has been done to it (`PendingQueue.performAll`): pending are the
exchanges that have been opened and have not left, in the order in which they were opened
(`PendingQueue.Kept`). An operation puts one exchange at the end, under a number that no exchange
has had, or takes exchanges out that stand together: none of them, one or all
(`PendingQueue.Operation.Does`). So much holds of every history, also where exchanges of both kinds
are pending at once (`PendingQueue.lawful_performAll`).
-/

namespace ModemRelay.PendingQueue

/-- Something that can be done to a queue. -/
inductive Operation where
  | pushModem (value : String)
  /-- The timer is armed for the number that the exchange gets. -/
  | pushModel (value : String) (arm : ExchangeId → TimerHandle)
  | popAwaitingModem
  | popAwaitingModel
  | remove (id : ExchangeId)
  | drain

/-- What an operation gives back: the number of the exchange that it opens, and the exchanges that
it takes out, oldest first. -/
structure Answer where
  number : Option ExchangeId := none
  taken : List Exchange := []

/-- An operation that has been performed. -/
structure Entry where
  operation : Operation
  answer : Answer

namespace Operation

def isPush : Operation → Bool
  | pushModem _ | pushModel .. => true
  | popAwaitingModem | popAwaitingModel | remove _ | drain => false

/-- The exchange that the operation opens under a number. -/
def opens (id : ExchangeId) : Operation → Option Exchange
  | pushModem value => some (.ofModem id value)
  | pushModel value arm => some (.ofModel id value (arm id))
  | popAwaitingModem | popAwaitingModel | remove _ | drain => none

/-- Hands out the exchange that was taken off a queue, if one was. -/
def take (q : PendingQueue) : Option (Exchange × PendingQueue) → Answer × PendingQueue
  | some (e, rest) => ({ taken := [e] }, rest)
  | none => ({}, q)

def perform : Operation → PendingQueue → Answer × PendingQueue
  | pushModem value, q => ({ number := some q.nextId }, q.pushModem value)
  | pushModel value arm, q => ({ number := some q.nextId }, q.pushModel value (arm q.nextId))
  | popAwaitingModem, q => take q q.popAwaitingModem
  | popAwaitingModel, q => take q q.popAwaitingModel
  | remove id, q => take q (q.remove id)
  | drain, q => ({ taken := q.toList }, q.clear)

/-- What an operation does to a queue: it opens one exchange at the end, or takes out exchanges that
stand together. -/
inductive Does (q : PendingQueue) : Operation → Answer → PendingQueue → Prop
  | opens {operation : Operation} (hp : operation.isPush = true)
    (ho : operation.opens q.nextId = some e) (hid : e.id = q.nextId)
    (hl : q'.toList = q.toList ++ [e]) (hn : q'.nextId.val = q.nextId.val + 1) :
    Does q operation { number := some q.nextId } q'
  | takes {operation : Operation} (hp : operation.isPush = false)
    (hq : q.toList = before ++ (taken ++ after)) (hl : q'.toList = before ++ after)
    (hn : q'.nextId = q.nextId) :
    Does q operation { taken } q'

/-- The operation takes the oldest exchange where it waits as it should, and changes nothing
otherwise. -/
structure Pops (operation : Operation) (waits : Exchange → Bool) (q : PendingQueue) : Prop where
  head : ∀ e rest, q.toList = e :: rest → waits e = true →
    ∃ q', operation.perform q = ({ taken := [e] }, q') ∧ q'.toList = rest
  stay : (∀ e ∈ q.toList.head?, waits e = false) → operation.perform q = ({}, q)

end Operation

/-- The exchange that was opened, under the number that was given back. -/
def Entry.opened? (x : Entry) : Option Exchange :=
  x.answer.number.bind fun id => x.operation.opens id

/-- Performs operations in order, and keeps the history. -/
def performAll : List Operation → PendingQueue → List Entry × PendingQueue
  | [], q => ([], q)
  | operation :: rest, q =>
    let (answer, q) := operation.perform q
    let (history, q) := performAll rest q
    (⟨operation, answer⟩ :: history, q)

/-- The numbers that have been given back. -/
def numbers (history : List Entry) : List ExchangeId := history.filterMap (·.answer.number)

/-- The exchanges that have been opened, each as it was then. -/
def opened (history : List Entry) : List Exchange := history.filterMap (·.opened?)

/-- The exchanges that have left. -/
def departed (history : List Entry) : List Exchange := history.flatMap (·.answer.taken)

/-- A queue holds what its history leaves. -/
structure Kept (history : List Entry) (q : PendingQueue) : Prop where
  /-- Each push has given a number back, -/
  numbered : ∀ x ∈ history, x.answer.number.isSome = x.operation.isPush
  /-- which is greater than all that were given back before it -/
  ascending : (numbers history).Pairwise (·.val < ·.val)
  fresh : ∀ id ∈ numbers history, id.val < q.nextId.val
  /-- and is that of the exchange. -/
  ids : (opened history).map (·.id) = numbers history
  /-- Pending are the exchanges that have been opened and have not left, in the order in which they
  were opened and with all that they were given then. -/
  pending : q.toList = (opened history).filter (· ∉ departed history)
  /-- No exchange has left twice, -/
  once : (departed history).Nodup
  /-- and none that had not been opened. -/
  known : ∀ e ∈ departed history, e ∈ opened history

/-- What can be relied on about a queue and its history. -/
structure Lawful (history : List Entry) (q : PendingQueue) : Prop extends Kept history q where
  /-- What is found under a number is the exchange that was opened under it, if it has not left, -/
  found : ∀ id e, q.get? id = some e ↔ e ∈ opened history ∧ e ∉ departed history ∧ e.id = id
  /-- and so something is found where the number has been given and its exchange has not left. -/
  present : ∀ id, (q.get? id).isSome = true ↔
    id ∈ numbers history ∧ id ∉ (departed history).map (·.id)
  /-- What is found can be removed, and the others stay in their order. -/
  removed : ∀ id e, q.get? id = some e →
    ∃ q', (Operation.remove id).perform q = ({ taken := [e] }, q') ∧
      q'.toList = q.toList.filter (· ≠ e)
  /-- Where nothing is found, a removal changes nothing. -/
  missing : ∀ id, q.get? id = none → (Operation.remove id).perform q = ({}, q)
  popsModem : Operation.popAwaitingModem.Pops (·.awaitsModem) q
  popsModel : Operation.popAwaitingModel.Pops (·.awaitsModel) q
  /-- A drain hands out all that is pending and leaves nothing behind. -/
  drained : ∃ q', Operation.drain.perform q = ({ taken := q.toList }, q') ∧ q'.toList = []

variable {q q' rest : PendingQueue} {e e' : Exchange} {id : ExchangeId} {operation : Operation}
  {answer : Answer} {history : List Entry}

/-! ## What an operation does -/

/-- Where the exchange that is removed stood. -/
theorem split_of_remove (h : q.remove id = some (e, rest)) :
    ∃ before after, q.toList = before ++ e :: after ∧ rest.toList = before ++ after ∧
      rest.nextId = q.nextId := by
  obtain ⟨hget, hl, hn⟩ := remove_eq_some h
  rw [get?_eq, List.find?_eq_some_iff_append] at hget
  obtain ⟨hid, before, after, hq, hbefore⟩ := hget
  refine ⟨before, after, hq, ?_, hn⟩
  rw [hl, hq, List.eraseP_append_right _ (by simpa using hbefore)]
  exact congrArg (before ++ ·) (List.eraseP_cons_of_pos hid)

namespace Operation

/-- Taking one exchange out, or none. -/
theorem does_take {taken? : Option (Exchange × PendingQueue)} (hp : operation.isPush = false)
    (h : ∀ e rest, taken? = some (e, rest) → ∃ before after, q.toList = before ++ e :: after ∧
      rest.toList = before ++ after ∧ rest.nextId = q.nextId) :
    Does q operation (take q taken?).1 (take q taken?).2 := by
  cases taken? with
  | none => exact .takes hp (show q.toList = [] ++ ([] ++ q.toList) from rfl) rfl rfl
  | some first =>
    obtain ⟨before, after, hq, hl, hn⟩ := h first.1 first.2 rfl
    exact .takes hp hq hl hn

/-- **What each operation does.** -/
theorem does (operation : Operation) (q : PendingQueue) :
    Does q operation (operation.perform q).1 (operation.perform q).2 := by
  cases operation with
  | pushModem value => exact .opens rfl rfl rfl (toList_pushModem ..) rfl
  | pushModel value arm => exact .opens rfl rfl rfl (toList_pushModel ..) rfl
  | popAwaitingModem =>
    refine does_take rfl fun e rest h => ?_
    obtain ⟨-, hq, hn⟩ := popAwaitingModem_eq_some h
    exact ⟨[], rest.toList, hq, rfl, hn⟩
  | popAwaitingModel =>
    refine does_take rfl fun e rest h => ?_
    obtain ⟨-, hq, hn⟩ := popAwaitingModel_eq_some h
    exact ⟨[], rest.toList, hq, rfl, hn⟩
  | remove id => exact does_take rfl fun e rest h => split_of_remove h
  | drain =>
    have hq : q.toList = [] ++ (q.toList ++ []) := (List.append_nil _).symm
    exact .takes rfl hq q.toList_clear rfl

/-- A pop that takes the head where it waits, and nothing only where it does not. -/
theorem pops_of_take {waits : Exchange → Bool} {taken? : Option (Exchange × PendingQueue)}
    (hp : operation.perform q = take q taken?)
    (hs : ∀ e rest, taken? = some (e, rest) → waits e = true ∧ q.toList = e :: rest.toList)
    (hn : taken? = none → ∀ e ∈ q.toList.head?, waits e = false) : operation.Pops waits q := by
  constructor
  · intro e rest hq hwaits
    cases taken? with
    | none => simp [hn rfl e (by simp [hq])] at hwaits
    | some first =>
      obtain ⟨-, hfirst⟩ := hs first.1 first.2 rfl
      obtain ⟨rfl, rfl⟩ := List.cons_eq_cons.mp (hq.symm.trans hfirst)
      exact ⟨first.2, hp, rfl⟩
  · intro hhead
    cases taken? with
    | none => exact hp
    | some first =>
      obtain ⟨hwaits, hfirst⟩ := hs first.1 first.2 rfl
      simp [hhead first.1 (by simp [hfirst])] at hwaits

theorem pops_awaitingModem (q : PendingQueue) : popAwaitingModem.Pops (·.awaitsModem) q := by
  refine pops_of_take rfl (fun e rest h => ?_) popAwaitingModem_eq_none
  obtain ⟨hwaits, hq, -⟩ := popAwaitingModem_eq_some h
  exact ⟨hwaits, hq⟩

theorem pops_awaitingModel (q : PendingQueue) : popAwaitingModel.Pops (·.awaitsModel) q := by
  refine pops_of_take rfl (fun e rest h => ?_) popAwaitingModel_eq_none
  obtain ⟨hwaits, hq, -⟩ := popAwaitingModel_eq_some h
  exact ⟨hwaits, hq⟩

end Operation

/-! ## What each operation keeps -/

@[simp] theorem numbers_concat (history : List Entry) (x : Entry) :
    numbers (history ++ [x]) = numbers history ++ x.answer.number.toList := by
  rw [numbers, List.filterMap_append, List.filterMap_cons, numbers]
  cases x.answer.number <;> rfl

@[simp] theorem opened_concat (history : List Entry) (x : Entry) :
    opened (history ++ [x]) = opened history ++ x.opened?.toList := by
  rw [opened, List.filterMap_append, List.filterMap_cons, opened]
  cases x.opened? <;> rfl

@[simp] theorem departed_concat (history : List Entry) (x : Entry) :
    departed (history ++ [x]) = departed history ++ x.answer.taken := by
  rw [departed, List.flatMap_append, List.flatMap_singleton, departed]

/-- To take out elements that stand together is to leave them out. -/
theorem filter_notMem_of_nodup {before taken after : List Exchange}
    (h : (before ++ (taken ++ after)).Nodup) :
    (before ++ (taken ++ after)).filter (· ∉ taken) = before ++ after := by
  rw [List.nodup_append, List.nodup_append] at h
  obtain ⟨-, ⟨-, -, hafter⟩, hbefore⟩ := h
  have htaken : taken.filter (· ∉ taken) = [] :=
    List.filter_eq_nil_iff.mpr fun e he => by simp [he]
  rw [List.filter_append, List.filter_append, htaken, List.nil_append]
  congr 1
  · refine List.filter_eq_self.mpr fun e he => decide_eq_true fun hmem => ?_
    exact hbefore e he e (List.mem_append_left _ hmem) rfl
  · refine List.filter_eq_self.mpr fun e he => decide_eq_true fun hmem => ?_
    exact hafter e hmem e he rfl

namespace Kept

theorem new : Kept [] {} := ⟨nofun, .nil, nofun, rfl, rfl, .nil, nofun⟩

theorem nodup_ids (h : Kept history q) : ((opened history).map (·.id)).Nodup := by
  rw [h.ids]
  exact h.ascending.imp fun hlt heq => Nat.ne_of_lt hlt (congrArg ExchangeId.val heq)

/-- No two exchanges have been opened under the same number. -/
theorem eq_of_id (h : Kept history q) (he : e ∈ opened history) (he' : e' ∈ opened history)
    (hid : e.id = e'.id) : e = e' :=
  List.inj_on_of_nodup_map h.nodup_ids he he' hid

theorem mem_toList (h : Kept history q) :
    e ∈ q.toList ↔ e ∈ opened history ∧ e ∉ departed history := by
  rw [h.pending, List.mem_filter, decide_eq_true_iff]

theorem nodup_toList (h : Kept history q) : q.toList.Nodup := by
  rw [h.pending]
  exact (h.nodup_ids.of_map _).filter _

/-- An exchange that has been opened had a number given back. -/
theorem mem_numbers (h : Kept history q) (he : e ∈ opened history) : e.id ∈ numbers history :=
  h.ids ▸ List.mem_map_of_mem he

/-- An exchange that is opened is pending from then on. -/
theorem push (h : Kept history q) (hp : operation.isPush = true)
    (ho : operation.opens q.nextId = some e) (hid : e.id = q.nextId)
    (hl : q'.toList = q.toList ++ [e]) (hn : q'.nextId.val = q.nextId.val + 1) :
    Kept (history ++ [⟨operation, { number := some q.nextId }⟩]) q' := by
  have hopened : opened (history ++ [⟨operation, { number := some q.nextId }⟩]) =
      opened history ++ [e] := by
    simp [Entry.opened?, ho]
  have hnew : e ∉ departed history := fun hmem => by
    have hlt := h.fresh _ (h.mem_numbers (h.known e hmem))
    rw [hid] at hlt
    exact Nat.lt_irrefl _ hlt
  constructor
  case numbered => exact List.forall_mem_append.mpr ⟨h.numbered, by simp [hp]⟩
  case ascending =>
    rw [numbers_concat, List.pairwise_append]
    exact ⟨h.ascending, List.pairwise_singleton ..,
      fun id hid => List.forall_mem_singleton.mpr (h.fresh id hid)⟩
  case fresh =>
    rw [numbers_concat, hn]
    exact List.forall_mem_append.mpr ⟨fun id hid => Nat.lt_succ_of_lt (h.fresh id hid),
      List.forall_mem_singleton.mpr (Nat.lt_succ_self _)⟩
  case ids =>
    rw [hopened, List.map_append, h.ids, numbers_concat, List.map_singleton, hid]
    rfl
  case pending =>
    rw [hopened, departed_concat, List.append_nil, List.filter_append, ← h.pending, hl,
      List.filter_singleton, decide_eq_true hnew]
    rfl
  case once =>
    rw [departed_concat, List.append_nil]
    exact h.once
  case known =>
    rw [departed_concat, List.append_nil, hopened]
    exact fun e he => List.mem_append_left _ (h.known e he)

/-- Exchanges that are taken out have left from then on. -/
theorem withdraw (h : Kept history q) {before taken after : List Exchange}
    (hp : operation.isPush = false) (hq : q.toList = before ++ (taken ++ after))
    (hl : q'.toList = before ++ after) (hn : q'.nextId = q.nextId) :
    Kept (history ++ [⟨operation, { taken }⟩]) q' := by
  have hnumbers : numbers (history ++ [⟨operation, { taken }⟩]) = numbers history := by simp
  have hopened : opened (history ++ [⟨operation, { taken }⟩]) = opened history := by
    simp [Entry.opened?]
  have hpending : ∀ e ∈ taken, e ∈ q.toList := fun e he =>
    hq ▸ List.mem_append_right _ (List.mem_append_left _ he)
  have hnodup : (before ++ (taken ++ after)).Nodup := hq ▸ h.nodup_toList
  constructor
  case numbered => exact List.forall_mem_append.mpr ⟨h.numbered, by simp [hp]⟩
  case ascending => exact hnumbers ▸ h.ascending
  case fresh =>
    rw [hnumbers, hn]
    exact h.fresh
  case ids => rw [hopened, hnumbers, h.ids]
  case pending =>
    rw [hl, ← filter_notMem_of_nodup hnodup, ← hq, h.pending, List.filter_filter, hopened,
      departed_concat]
    refine List.filter_congr fun e _ => ?_
    simp [and_comm]
  case once =>
    rw [departed_concat, List.nodup_append]
    refine ⟨h.once, hnodup.of_append_right.of_append_left, fun e he e' he' heq => ?_⟩
    exact (h.mem_toList.mp (hpending e' he')).2 (heq ▸ he)
  case known =>
    rw [departed_concat, hopened]
    exact List.forall_mem_append.mpr ⟨h.known, fun e he => (h.mem_toList.mp (hpending e he)).1⟩

/-- **Every operation keeps the history.** -/
theorem does (h : Kept history q) (hd : operation.Does q answer q') :
    Kept (history ++ [⟨operation, answer⟩]) q' := by
  cases hd with
  | opens hp ho hid hl hn => exact h.push hp ho hid hl hn
  | takes hp hq hl hn => exact h.withdraw hp hq hl hn

/-- **Whatever is done to a queue**, it holds what its history leaves. -/
theorem performAll (h : Kept history q) (operations : List Operation) :
    Kept (history ++ (performAll operations q).1) (performAll operations q).2 := by
  induction operations generalizing history q with
  | nil => rwa [PendingQueue.performAll, List.append_nil]
  | cons operation rest ih =>
    have hrest := ih (h.does (operation.does q))
    rwa [List.append_assoc] at hrest

/-! ## What a history tells of a queue -/

theorem found (h : Kept history q) :
    q.get? id = some e ↔ e ∈ opened history ∧ e ∉ departed history ∧ e.id = id := by
  rw [get?_eq, ← and_assoc, ← h.mem_toList]
  constructor
  · exact fun hget => ⟨List.mem_of_find?_eq_some hget, by simpa using List.find?_some hget⟩
  · rintro ⟨hmem, rfl⟩
    obtain ⟨e', hget⟩ : ∃ e', q.toList.find? (·.id == e.id) = some e' :=
      Option.isSome_iff_exists.mp (List.find?_isSome.mpr ⟨e, hmem, by simp⟩)
    have hmem' := h.mem_toList.mp (List.mem_of_find?_eq_some hget)
    have hid : e'.id = e.id := by simpa using List.find?_some hget
    rw [hget, h.eq_of_id hmem'.1 (h.mem_toList.mp hmem).1 hid]

theorem present (h : Kept history q) :
    (q.get? id).isSome = true ↔ id ∈ numbers history ∧ id ∉ (departed history).map (·.id) := by
  rw [Option.isSome_iff_exists, ← h.ids]
  constructor
  · rintro ⟨e, hget⟩
    obtain ⟨hopened, hnot, rfl⟩ := h.found.mp hget
    refine ⟨List.mem_map_of_mem hopened, fun hmem => ?_⟩
    obtain ⟨e', he', hid⟩ := List.mem_map.mp hmem
    exact hnot (h.eq_of_id (h.known e' he') hopened hid ▸ he')
  · rintro ⟨hmem, hnot⟩
    obtain ⟨e, hopened, rfl⟩ := List.mem_map.mp hmem
    exact ⟨e, h.found.mpr ⟨hopened, fun he => hnot (List.mem_map_of_mem he), rfl⟩⟩

theorem removed (h : Kept history q) (hget : q.get? id = some e) :
    ∃ q', (Operation.remove id).perform q = ({ taken := [e] }, q') ∧
      q'.toList = q.toList.filter (· ≠ e) := by
  obtain ⟨q', hremove⟩ : ∃ q', q.remove id = some (e, q') := by
    rw [remove, hget]
    exact ⟨_, rfl⟩
  refine ⟨q', by rw [Operation.perform, hremove]; rfl, ?_⟩
  obtain ⟨before, after, hq, hl, -⟩ := split_of_remove hremove
  have hnodup : (before ++ ([e] ++ after)).Nodup := hq ▸ h.nodup_toList
  rw [hl, hq, ← filter_notMem_of_nodup hnodup]
  simp

theorem lawful (h : Kept history q) : Lawful history q where
  toKept := h
  found _ _ := h.found
  present _ := h.present
  removed _ _ := h.removed
  missing id hget := by
    rw [Operation.perform, remove, hget]
    rfl
  popsModem := Operation.pops_awaitingModem q
  popsModel := Operation.pops_awaitingModel q
  drained := ⟨q.clear, rfl, q.toList_clear⟩

end Kept

/-- **A queue holds exactly what has been put into it and has not left**, whatever is done to it and
whatever kinds of exchanges are pending at once. The operations up to any moment are a history of
their own, so this holds between all of them. -/
theorem lawful_performAll (operations : List Operation) :
    Lawful (performAll operations {}).1 (performAll operations {}).2 :=
  (Kept.new.performAll operations).lawful

/-- Exchanges of both kinds are pending at once, and the one in the middle is removed. -/
example :
    let (history, q) := performAll [.pushModem "Telit", .pushModel "OK" fun id => ⟨id.val + 7⟩,
      .pushModem "RING", .popAwaitingModem, .remove ⟨1⟩, .remove ⟨1⟩, .popAwaitingModel] {}
    departed history = [.ofModel ⟨1⟩ "OK" ⟨8⟩, .ofModem ⟨0⟩ "Telit"] ∧
      q.toList = [.ofModem ⟨2⟩ "RING"] := by decide

end ModemRelay.PendingQueue
