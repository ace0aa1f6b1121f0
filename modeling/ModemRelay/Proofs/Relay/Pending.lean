import ModemRelay.Relay.Basic

/-!
# The pending exchanges of a relay

The pending queue of a relay holds exchanges of one kind only: either the model has answered all of
them (`Exchange.ModelFirst`) or the modem has (`Exchange.ModemFirst`). This is part of `Sound`, what
holds of a relay at all times. A queue is seen through three lists, oldest exchange first: the
model answers that wait (`modelValues`), the modem answers that wait (`modemValues`), and the timers
with their exchanges (`timers`).
-/

namespace ModemRelay

namespace Exchange

variable {x : ExchangeId} {value : String} {handle : TimerHandle}

/-- Only the model has answered, and a timer guards the wait for the modem. -/
def ModelFirst (e : Exchange) : Prop := ∃ x value handle, e = ofModel x value handle

/-- Only the modem has answered. -/
def ModemFirst (e : Exchange) : Prop := ∃ x value, e = ofModem x value

theorem ModelFirst.awaitsModem_eq {e : Exchange} (h : e.ModelFirst) : e.awaitsModem = true := by
  obtain ⟨x, value, handle, rfl⟩ := h
  rfl

theorem ModemFirst.awaitsModel_eq {e : Exchange} (h : e.ModemFirst) : e.awaitsModel = true := by
  obtain ⟨x, value, rfl⟩ := h
  rfl

@[simp] theorem modelFirst_ofModel : (ofModel x value handle).ModelFirst := ⟨_, _, _, rfl⟩

@[simp] theorem modemFirst_ofModem : (ofModem x value).ModemFirst := ⟨_, _, rfl⟩

@[simp] theorem not_modemFirst_ofModel : ¬(ofModel x value handle).ModemFirst :=
  fun ⟨_, _, h⟩ => by simp [ofModel, ofModem] at h

@[simp] theorem not_modelFirst_ofModem : ¬(ofModem x value).ModelFirst :=
  fun ⟨_, _, _, h⟩ => by simp [ofModel, ofModem] at h

@[simp] theorem id_ofModel : (ofModel x value handle).id = x := rfl

@[simp] theorem id_ofModem : (ofModem x value).id = x := rfl

@[simp] theorem modelValue_ofModel : (ofModel x value handle).modelValue = some value := rfl

@[simp] theorem modemValue_ofModel : (ofModel x value handle).modemValue = none := rfl

@[simp] theorem modelValue_ofModem : (ofModem x value).modelValue = none := rfl

@[simp] theorem modemValue_ofModem : (ofModem x value).modemValue = some value := rfl

@[simp] theorem timer_ofModel : (ofModel x value handle).timer = some handle := rfl

@[simp] theorem timer_ofModem : (ofModem x value).timer = none := rfl

end Exchange

namespace PendingQueue

/-- The model answers that wait for the modem's. -/
def modelValues (q : PendingQueue) : List String := q.toList.filterMap (·.modelValue)

/-- The modem answers that wait for the model's. -/
def modemValues (q : PendingQueue) : List String := q.toList.filterMap (·.modemValue)

/-- The timers and the exchanges that they guard. -/
def timers (q : PendingQueue) : List (TimerHandle × ExchangeId) :=
  q.toList.filterMap fun e => e.timer.map (·, e.id)

/-- All exchanges wait on the same side. -/
def OneSided (q : PendingQueue) : Prop :=
  (∀ e ∈ q.toList, e.ModelFirst) ∨ ∀ e ∈ q.toList, e.ModemFirst

theorem clear_of_toList_eq_nil {q : PendingQueue} (h : q.toList = []) :
    q.clear = q := by
  obtain ⟨⟨front, back, size, hsize, hback⟩, nextId⟩ := q
  obtain ⟨rfl, rfl⟩ : front = [] ∧ back = [] := by simpa [toList, Fifo.toList] using h
  cases hsize
  rfl

variable {q rest : PendingQueue} {x : ExchangeId} {value : String} {handle : TimerHandle}

@[simp] theorem modelValues_clear : q.clear.modelValues = [] := rfl

@[simp] theorem modemValues_clear : q.clear.modemValues = [] := rfl

@[simp] theorem timers_clear : q.clear.timers = [] := rfl

@[simp] theorem modelValues_pushModel :
    (q.pushModel value handle).modelValues = q.modelValues ++ [value] := by
  simp [modelValues]

@[simp] theorem modemValues_pushModel :
    (q.pushModel value handle).modemValues = q.modemValues := by
  simp [modemValues]

@[simp] theorem timers_pushModel :
    (q.pushModel value handle).timers = q.timers ++ [(handle, q.nextId)] := by
  simp [timers]

@[simp] theorem modelValues_pushModem : (q.pushModem value).modelValues = q.modelValues := by
  simp [modelValues]

@[simp] theorem modemValues_pushModem :
    (q.pushModem value).modemValues = q.modemValues ++ [value] := by
  simp [modemValues]

@[simp] theorem timers_pushModem : (q.pushModem value).timers = q.timers := by
  simp [timers]

/-! ### A queue by the kind of its exchanges -/

theorem modemValues_of_modelFirst (h : ∀ e ∈ q.toList, e.ModelFirst) : q.modemValues = [] := by
  rw [modemValues, List.filterMap_eq_nil_iff]
  intro e he
  obtain ⟨x, value, handle, rfl⟩ := h e he
  rfl

theorem modelValues_of_modemFirst (h : ∀ e ∈ q.toList, e.ModemFirst) : q.modelValues = [] := by
  rw [modelValues, List.filterMap_eq_nil_iff]
  intro e he
  obtain ⟨x, value, rfl⟩ := h e he
  rfl

theorem timers_of_modemFirst (h : ∀ e ∈ q.toList, e.ModemFirst) : q.timers = [] := by
  rw [timers, List.filterMap_eq_nil_iff]
  intro e he
  obtain ⟨x, value, rfl⟩ := h e he
  rfl

theorem length_modelValues (h : ∀ e ∈ q.toList, e.ModelFirst) :
    q.modelValues.length = q.toList.length := by
  rw [modelValues, List.length_filterMap_eq_countP, List.countP_eq_length]
  intro e he
  obtain ⟨x, value, handle, rfl⟩ := h e he
  rfl

theorem length_modemValues (h : ∀ e ∈ q.toList, e.ModemFirst) :
    q.modemValues.length = q.toList.length := by
  rw [modemValues, List.length_filterMap_eq_countP, List.countP_eq_length]
  intro e he
  obtain ⟨x, value, rfl⟩ := h e he
  rfl

theorem views_of_cons_ofModel (h : q.toList = .ofModel x value handle :: rest.toList) :
    q.modelValues = value :: rest.modelValues ∧ q.modemValues = rest.modemValues ∧
      q.timers = (handle, x) :: rest.timers := by
  simp [modelValues, modemValues, timers, h, List.filterMap_cons]

theorem views_of_cons_ofModem (h : q.toList = .ofModem x value :: rest.toList) :
    q.modelValues = rest.modelValues ∧ q.modemValues = value :: rest.modemValues ∧
      q.timers = rest.timers := by
  simp [modelValues, modemValues, timers, h, List.filterMap_cons]

/-- Taking the oldest exchange out leaves the others. -/
theorem cons_of_head? {e : Exchange} (hh : q.toList.head? = some e)
    (hl : rest.toList = q.toList.eraseP (·.id == e.id)) : q.toList = e :: rest.toList := by
  obtain ⟨tail, htail⟩ := List.head?_eq_some_iff.mp hh
  rw [hl, htail, List.eraseP_cons_of_pos (by simp)]

/-- Taking an exchange out takes out its model answer, wherever it stands. -/
theorem modelValues_eraseP (hmem : .ofModel x value handle ∈ q.toList)
    (hid : ∀ e ∈ q.toList, e.id = x → e = .ofModel x value handle)
    (hl : rest.toList = q.toList.eraseP (·.id == x)) :
    (value :: rest.modelValues).Perm q.modelValues := by
  obtain ⟨e, before, after, -, he, hq, herase⟩ :=
    List.exists_of_eraseP (p := fun e : Exchange => e.id == x) hmem (by simp)
  cases hid e (by simp [hq]) (by simpa using he)
  rw [modelValues, modelValues, hl, herase, hq, List.filterMap_append, List.filterMap_append]
  exact List.perm_middle.symm

end PendingQueue

namespace Relay

/-! ## Sound relays -/

/-- What holds of a relay at all times. -/
structure Sound (r : Relay) : Prop where
  oneSided : r.pending.OneSided
  /-- Exchanges are pending in the order of their numbers. -/
  ascending : r.pending.toList.Pairwise (·.id.val < ·.id.val)
  fresh : ∀ e ∈ r.pending.toList, e.id.val < r.pending.nextId.val
  /-- Answers are kept only while they are compared. -/
  idle : r.mode ≠ .splitVerify → r.pending.toList = []
  settled : r.mode = .splitVerify → r.owedModemLines = 0
  /-- The client is in touch with a modem only where there is one. -/
  attached : r.mode ≠ .wardModel → r.hasModem = true

theorem Sound.new (config : Config) (hasModem : Bool) : (Relay.new config hasModem).Sound where
  oneSided := .inl (by simp [Relay.new])
  ascending := by simp [Relay.new]
  fresh := by simp [Relay.new]
  idle _ := rfl
  settled h := nomatch h
  attached h := (h rfl).elim

namespace Sound

variable {r : Relay} {x : ExchangeId} {model : String} {timer : TimerHandle}

theorem deliver (h : r.Sound) (deliveries : Deliveries) : Sound { r with deliveries } :=
  ⟨h.oneSided, h.ascending, h.fresh, h.idle, h.settled, h.attached⟩

theorem modelFirst_or_modemFirst (h : r.Sound) {e : Exchange} (he : e ∈ r.pending.toList) :
    e.ModelFirst ∨ e.ModemFirst :=
  h.oneSided.imp (· e he) (· e he)

theorem modemValues_eq_nil (h : r.Sound) (hm : r.pending.modelValues ≠ []) :
    r.pending.modemValues = [] := by
  rcases h.oneSided with hs | hs
  · exact PendingQueue.modemValues_of_modelFirst hs
  · exact (hm (PendingQueue.modelValues_of_modemFirst hs)).elim

theorem modelValues_eq_nil (h : r.Sound) (hm : r.pending.modemValues ≠ []) :
    r.pending.modelValues = [] := by
  rcases h.oneSided with hs | hs
  · exact (hm (PendingQueue.modemValues_of_modelFirst hs)).elim
  · exact PendingQueue.modelValues_of_modemFirst hs

/-- Every model answer that waits has a timer of its own. -/
theorem length_timers (h : r.Sound) :
    r.pending.timers.length = r.pending.modelValues.length := by
  rw [PendingQueue.timers, PendingQueue.modelValues, List.length_filterMap_eq_countP,
    List.length_filterMap_eq_countP]
  refine List.countP_congr fun e he => ?_
  rcases h.modelFirst_or_modemFirst he with ⟨x, model, handle, rfl⟩ | ⟨x, modem, rfl⟩
  · simp
  · simp

theorem modelValues_of_timers_nil (h : r.Sound) (ht : r.pending.timers = []) :
    r.pending.modelValues = [] :=
  List.eq_nil_of_length_eq_zero (by rw [← h.length_timers, ht, List.length_nil])

/-- Every exchange holds an answer that waits. -/
theorem toList_eq_nil (h : r.Sound) (hmodels : r.pending.modelValues = [])
    (hmodems : r.pending.modemValues = []) : r.pending.toList = [] := by
  refine List.eq_nil_of_length_eq_zero ?_
  rcases h.oneSided with hs | hs
  · rw [← PendingQueue.length_modelValues hs, hmodels]
    rfl
  · rw [← PendingQueue.length_modemValues hs, hmodems]
    rfl

/-- The oldest timer guards the oldest exchange. -/
theorem head_of_timers (h : r.Sound) (ht : r.pending.timers = (timer, x) :: timers) :
    ∃ model rest, r.pending.toList = .ofModel x model timer :: rest := by
  rcases h.oneSided with hs | hs
  · cases hl : r.pending.toList with
    | nil => simp [PendingQueue.timers, hl] at ht
    | cons e rest =>
      obtain ⟨y, model, handle, rfl⟩ := hs e (by simp [hl])
      simp only [PendingQueue.timers, hl, List.filterMap_cons, Exchange.timer_ofModel,
        Exchange.id_ofModel, Option.map_some, List.cons.injEq, Prod.mk.injEq] at ht
      obtain ⟨⟨rfl, rfl⟩, -⟩ := ht
      exact ⟨model, rest, rfl⟩
  · simp [PendingQueue.timers_of_modemFirst hs] at ht

/-- No two pending exchanges have the same number. -/
theorem eq_of_id (h : r.Sound) {e e' : Exchange} (he : e ∈ r.pending.toList)
    (he' : e' ∈ r.pending.toList) (hid : e.id = e'.id) : e = e' := by
  have hasc := List.pairwise_iff_getElem.mp h.ascending
  obtain ⟨i, hi, rfl⟩ := List.mem_iff_getElem.mp he
  obtain ⟨j, hj, rfl⟩ := List.mem_iff_getElem.mp he'
  have hval := congrArg ExchangeId.val hid
  rcases Nat.lt_trichotomy i j with hlt | rfl | hlt
  · exact (Nat.ne_of_lt (hasc i j hi hj hlt) hval).elim
  · rfl
  · exact (Nat.ne_of_gt (hasc j i hj hi hlt) hval).elim

/-- The exchange of the oldest timer is the oldest. -/
theorem head?_of_timers (h : r.Sound) (ht : r.pending.timers = (timer, x) :: timers) {e : Exchange}
    (he : e ∈ r.pending.toList) (hid : e.id = x) : r.pending.toList.head? = some e := by
  obtain ⟨model, rest, hl⟩ := h.head_of_timers ht
  cases h.eq_of_id he (hl ▸ List.mem_cons_self) hid
  rw [hl, List.head?_cons]

/-- What the oldest timer takes out is the oldest exchange. -/
theorem cons_of_expired (h : r.Sound) {handle : TimerHandle}
    {timers : List (TimerHandle × ExchangeId)} {rest : PendingQueue}
    (ht : r.pending.timers = (handle, x) :: timers)
    (hp : .ofModel x model timer ∈ r.pending.toList)
    (hl : rest.toList = r.pending.toList.eraseP (·.id == x)) :
    r.pending.toList = .ofModel x model timer :: rest.toList :=
  PendingQueue.cons_of_head? (h.head?_of_timers ht hp rfl) hl

end Sound

end Relay

end ModemRelay
