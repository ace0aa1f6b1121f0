import ModemRelay.Proofs.Simulation.Turn

/-!
# The timers of a session

In every session the timers that are to fire are those of the pending exchanges, in the same order,
and none fires later than a response timeout from now (`World`). A timer that fires is therefore
that of the oldest pending exchange.
-/

namespace ModemRelay.Simulation
open Relay

namespace Scene

variable {σ : Scene} {d : Due} {e : Endpoint} {input : Input} {mode : Mode}

@[simp] theorem agenda_heard : (σ.heard d).agenda = σ.agenda := by
  unfold heard
  split <;> rfl

@[simp] theorem busy_heard : (σ.heard d).busy = σ.busy := by
  unfold heard
  split <;> rfl

@[simp] theorem agenda_handled : (σ.handled input mode).agenda = σ.agenda := by
  unfold handled
  split <;> rfl

@[simp] theorem busy_handled : (σ.handled input mode).busy = σ.busy := by
  unfold handled
  split <;> rfl

/-- Only lines that come and timers that fire are written down before the relay hears of them. -/
theorem filterMap_heard {view : Observed → Option β}
    (hr : ∀ time source line, view ⟨time, .received source line⟩ = none)
    (hf : ∀ time timer x, view ⟨time, .fired timer x⟩ = none) :
    (σ.heard d).transcript.filterMap view = σ.transcript.filterMap view := by
  unfold heard
  cases d.event with
  | line => rw [filterMap_record, hr, Option.toList_none, List.append_nil]
  | timer => rw [filterMap_record, hf, Option.toList_none, List.append_nil]
  | setMode => rfl

/-- Only modes that were asked for are written down afterwards. -/
theorem filterMap_handled {view : Observed → Option β}
    (hm : ∀ time requested effective, view ⟨time, .modeChanged requested effective⟩ = none) :
    (σ.handled input mode).transcript.filterMap view = σ.transcript.filterMap view := by
  unfold handled
  split
  · rw [filterMap_record, hm, Option.toList_none, List.append_nil]
  · rfl

theorem arrivals_heard :
    (σ.heard d).arrivals e =
      σ.arrivals e ++ ((d.event.line? e).map (σ.agenda.now, ·)).toList := by
  unfold heard
  cases d.event with
  | line | timer => exact arrivals_record
  | setMode => exact (List.append_nil _).symm

@[simp] theorem sentTo_heard : (σ.heard d).sentTo e = σ.sentTo e :=
  filterMap_heard (fun _ _ _ => rfl) fun _ _ _ => rfl

theorem fired_heard : (σ.heard d).fired = σ.fired ++ d.event.timer?.toList := by
  unfold heard
  cases d.event with
  | line | timer => exact fired_record
  | setMode => exact (List.append_nil _).symm

@[simp] theorem failures_heard : (σ.heard d).failures = σ.failures :=
  filterMap_heard (fun _ _ _ => rfl) fun _ _ _ => rfl

@[simp] theorem arrivals_handled : (σ.handled input mode).arrivals e = σ.arrivals e :=
  filterMap_handled fun _ _ _ => rfl

@[simp] theorem sentTo_handled : (σ.handled input mode).sentTo e = σ.sentTo e :=
  filterMap_handled fun _ _ _ => rfl

@[simp] theorem failures_handled : (σ.handled input mode).failures = σ.failures :=
  filterMap_handled fun _ _ _ => rfl

end Scene

/-- The timers of a scene as the relay knows them. -/
def tagged (timers : List (Slot × ExchangeId)) : List (TimerHandle × ExchangeId) :=
  timers.map fun t => (⟨t.1.key⟩, t.2)

/-- What holds of the relay and the scene of every session. -/
structure World (r : Relay) (σ : Scene) : Prop where
  relay : r.Sound
  agenda : σ.agenda.Sound
  /-- The timers that are to fire are those of the pending exchanges. -/
  timers : tagged σ.timers = r.pending.timers
  /-- No timer waits for longer than the response timeout. -/
  bounded : ∀ t ∈ σ.timers, t.1.due.nanos ≤ σ.agenda.now.nanos + r.config.responseTimeout.nanos

/-- What holds of the relay and the scene when the relay hears of an input. A timer that fires then
has the handle `timer` and is no longer queued. -/
structure Hears (r : Relay) (σ : Scene) (input : Input) (timer : TimerHandle) : Prop where
  relay : r.Sound
  agenda : σ.agenda.Sound
  timers : r.pending.timers = (input.timer?.map (timer, ·)).toList ++ tagged σ.timers
  nodup : (r.pending.timers.map (·.1)).Nodup
  bounded : ∀ t ∈ σ.timers, t.1.due.nanos ≤ σ.agenda.now.nanos + r.config.responseTimeout.nanos

namespace Hears

variable {r r' : Relay} {σ σ' : Scene} {input : Input} {timer : TimerHandle}
  {actions : List Action} {answer? : Endpoint → String → Option String}

private theorem tagged_filter (timers : List (Slot × ExchangeId)) (actions : List Action) :
    tagged (timers.filter fun t => .cancel ⟨t.1.key⟩ ∉ actions) =
      (tagged timers).filter fun t => .cancel t.1 ∉ actions := by
  rw [tagged, tagged, List.filter_map]
  rfl

/-- A timer that is armed fires after all others. -/
theorem timers_of_arm (h : Hears r σ input timer) {x : ExchangeId}
    (hacts : Scene.ActsAll answer? [.arm r.config.responseTimeout x] σ σ') :
    ∃ due, due.nanos = σ.agenda.now.nanos + r.config.responseTimeout.nanos ∧
      σ'.timers = σ.timers ++ [(⟨due, σ.agenda.nextKey⟩, x)] := by
  cases hacts with
  | cons ha hnil =>
    cases hnil
    exact ha.timers_arm h.agenda h.bounded

/-- **Timers are armed and cancelled as exchanges become pending and cease to be.** -/
theorem acts (h : Hears r σ input timer) (hm : Move r ⟨σ.agenda.nextKey⟩ input r' actions)
    (hacts : Scene.ActsAll answer? actions σ σ') : World r' σ' := by
  by_cases harm : ∃ delay x, .arm delay x ∈ actions
  · obtain ⟨delay, x, hmem⟩ := harm
    have hsound := hm.sound h.relay
    obtain ⟨line, rfl, rfl, rfl, -⟩ := hm.of_arm hmem
    obtain ⟨due, hdue, htimers⟩ := h.timers_of_arm hacts
    refine ⟨hsound, hacts.sound h.agenda, ?_, ?_⟩
    · rw [htimers, PendingQueue.timers_pushModel, h.timers, tagged, List.map_append]
      rfl
    · rw [htimers, hacts.now_eq]
      intro t ht
      rw [List.mem_append, List.mem_singleton] at ht
      rcases ht with ht | rfl
      · exact h.bounded t ht
      · exact Nat.le_of_eq hdue
  · have harm : ∀ delay x, .arm delay x ∉ actions := fun delay x hmem => harm ⟨delay, x, hmem⟩
    have htimers := hacts.timers_eq h.agenda harm
    refine ⟨hm.sound h.relay, hacts.sound h.agenda, ?_, ?_⟩
    · rw [htimers, tagged_filter, hm.timers_eq h.relay h.nodup h.timers harm]
    · rw [htimers, hacts.now_eq, hm.config_eq]
      exact fun t ht => h.bounded t (List.mem_filter.mp ht).1

end Hears

namespace World

variable {r r' : Relay} {σ σ' : Scene} {d : Due} {agenda : Agenda} {handle timer : TimerHandle}
  {actions : List Action} {answer? : Endpoint → String → Option String}

theorem nodup_timers (h : World r σ) : (r.pending.timers.map (·.1)).Nodup := by
  have hk := h.agenda.nodup_keys Input.timer?
  rw [← h.timers, tagged, List.map_map, List.Nodup, List.pairwise_map]
  rw [List.Nodup, List.pairwise_map] at hk
  exact hk.imp fun hne heq => hne (congrArg TimerHandle.val heq)

/-- The timer of a pending exchange is still to fire, and nothing else has its handle. -/
theorem isTimer (h : World r σ) (hp : σ.agenda.popNext = some (d, agenda))
    (ht : ∃ x, (timer, x) ∈ r.pending.timers) : agenda.IsTimer timer := by
  obtain ⟨x, hx⟩ := ht
  rw [← h.timers, tagged, List.mem_map] at hx
  obtain ⟨⟨slot, y⟩, hslot, heq⟩ := hx
  cases heq
  obtain ⟨event, hq, hevent⟩ := Agenda.mem_lane.mp hslot
  have hmem := Agenda.mem_queue_of_mem_lane hslot
  refine ⟨Agenda.nextKey_of_popNext hp ▸ h.agenda.key_lt slot hmem, fun slot' event' hq' hk => ?_⟩
  have hq' := Agenda.getElem?_of_popNext hp hq'
  have hmem' : slot' ∈ σ.agenda.queue := Agenda.mem_queue_iff.mpr ⟨event', hq'⟩
  cases h.agenda.eq_of_key hmem' hmem hk
  rw [hq] at hq'
  cases hq'
  cases event with
  | timer z => exact ⟨z, rfl⟩
  | line | setMode => cases hevent

theorem ready (h : World r σ) (hp : σ.agenda.popNext = some (d, agenda))
    (hm : Move r handle d.event r' actions) :
    (Scene.heard { σ with agenda } d).Ready actions where
  sound := by
    rw [Scene.agenda_heard]
    exact h.agenda.popNext hp
  isTimer timer hc := by
    rw [Scene.agenda_heard]
    exact h.isTimer hp (hm.mem_timers h.relay hc).2

/-- A timer that fires is that of the oldest pending exchange. -/
theorem timers_pop (h : World r σ) (hp : σ.agenda.popNext = some (d, agenda)) :
    r.pending.timers = (d.event.timer?.map (⟨d.key⟩, ·)).toList ++
      tagged (agenda.lane Input.timer?) := by
  rw [← h.timers, Scene.timers, Agenda.lane_popNext hp Input.timer?, tagged, List.map_append]
  cases d.event.timer? <;> rfl

theorem timers_heard :
    (Scene.heard { σ with agenda } d).timers = agenda.lane Input.timer? := by
  rw [Scene.timers, Scene.agenda_heard]

/-- Once an event has been taken off and written down, the relay hears of it. -/
theorem hears_pop (h : World r σ) (hp : σ.agenda.popNext = some (d, agenda)) :
    Hears r (Scene.heard { σ with agenda } d) d.event ⟨d.key⟩ where
  relay := h.relay
  agenda := by
    rw [Scene.agenda_heard]
    exact h.agenda.popNext hp
  timers := by
    rw [timers_heard]
    exact h.timers_pop hp
  nodup := h.nodup_timers
  bounded t ht := by
    rw [timers_heard] at ht
    have hmem : t ∈ σ.timers := by
      rw [Scene.timers, Agenda.lane_popNext hp]
      exact List.mem_append_right _ ht
    have hclock : σ.agenda.now.nanos ≤ agenda.now.nanos := h.agenda.now_le_of_popNext hp
    rw [Scene.agenda_heard]
    exact Nat.le_trans (h.bounded t hmem) (Nat.add_le_add_right hclock _)

/-- Of anything but a timer the relay may also hear at any time. -/
theorem hears (h : World r σ) {input : Input} (hi : input.timer? = none) :
    Hears r σ input timer where
  relay := h.relay
  agenda := h.agenda
  timers := by
    rw [hi, h.timers]
    rfl
  nodup := h.nodup_timers
  bounded := h.bounded

/-- A timer that is armed fires after all others. -/
theorem timers_of_arm (h : World r σ) (hp : σ.agenda.popNext = some (d, agenda)) {x : ExchangeId}
    (hacts : Scene.ActsAll answer? [.arm r.config.responseTimeout x]
      (Scene.heard { σ with agenda } d) σ') :
    ∃ due, due.nanos = agenda.now.nanos + r.config.responseTimeout.nanos ∧
      σ'.timers = agenda.lane Input.timer? ++ [(⟨due, agenda.nextKey⟩, x)] := by
  have harm := (h.hears_pop hp).timers_of_arm hacts
  rwa [timers_heard, Scene.agenda_heard] at harm

/-- Where none is armed, the timers left are those that are not cancelled. -/
theorem timers_of_not_arm (h : World r σ) (hp : σ.agenda.popNext = some (d, agenda))
    (hacts : Scene.ActsAll answer? actions (Scene.heard { σ with agenda } d) σ')
    (ha : ∀ delay x, .arm delay x ∉ actions) :
    σ'.timers = (agenda.lane Input.timer?).filter fun t => .cancel ⟨t.1.key⟩ ∉ actions := by
  rw [hacts.timers_eq (h.hears_pop hp).agenda ha, timers_heard]

/-- Where none is armed or cancelled, only the timer that fires is gone. -/
theorem timers_of_idle (h : World r σ) (hp : σ.agenda.popNext = some (d, agenda))
    (hacts : Scene.ActsAll answer? actions (Scene.heard { σ with agenda } d) σ')
    (ha : ∀ delay x, .arm delay x ∉ actions) (hc : ∀ t, .cancel t ∉ actions) :
    σ.timers = (d.event.timer?.map (⟨d.time, d.key⟩, ·)).toList ++ σ'.timers := by
  rw [h.timers_of_not_arm hp hacts ha, List.filter_eq_self.mpr (by simp [hc])]
  exact Agenda.lane_popNext hp _

/-- Where the first timer alone is cancelled, all others are left. -/
theorem timers_of_cancel (h : World r σ) (hp : σ.agenda.popNext = some (d, agenda))
    (hacts : Scene.ActsAll answer? actions (Scene.heard { σ with agenda } d) σ')
    (ha : ∀ delay x, .arm delay x ∉ actions) (hd : d.event.timer? = none) {x : ExchangeId}
    {timers : List (TimerHandle × ExchangeId)} (ht : r.pending.timers = (timer, x) :: timers)
    (hc : ∀ t, .cancel t ∈ actions ↔ t = timer) :
    ∃ slot, σ.timers = (slot, x) :: σ'.timers ∧ (⟨d.time, d.key⟩ : Slot) < slot := by
  have hsame : σ.timers = agenda.lane Input.timer? := by
    rw [Scene.timers, Agenda.lane_popNext hp, hd]
    rfl
  have htagged := h.timers
  rw [ht, tagged, List.map_eq_cons_iff] at htagged
  obtain ⟨⟨slot, y⟩, others, hall, hfirst, -⟩ := htagged
  cases hfirst
  have hnodup := h.agenda.nodup_keys Input.timer?
  rw [← Scene.timers, hall, List.map_cons, List.nodup_cons] at hnodup
  have hothers : others.filter (fun t => .cancel ⟨t.1.key⟩ ∉ actions) = others := by
    refine List.filter_eq_self.mpr fun t hmem => decide_eq_true fun hcancel => ?_
    exact hnodup.1 (List.mem_map.mpr
      ⟨t, hmem, congrArg TimerHandle.val ((hc _).mp hcancel)⟩)
  have hslot : (slot, y) ∈ agenda.lane Input.timer? := by
    rw [← hsame, hall]
    exact List.mem_cons_self
  refine ⟨slot, ?_, Agenda.lt_of_popNext hp (Agenda.mem_queue_of_mem_lane hslot)⟩
  rw [h.timers_of_not_arm hp hacts ha, ← hsame, hall, List.filter_cons_of_neg (by simp [hc]),
    hothers]

/-- **Timers leave in their order**: where none is armed, those that are left are the last. -/
theorem timers_isSuffix (h : World r σ) (hp : σ.agenda.popNext = some (d, agenda))
    (hm : Move r ⟨agenda.nextKey⟩ d.event r' actions)
    (hacts : Scene.ActsAll answer? actions (Scene.heard { σ with agenda } d) σ')
    (ha : ∀ delay x, .arm delay x ∉ actions) : σ'.timers <:+ σ.timers := by
  have hworld := (h.hears_pop hp).acts (by rwa [Scene.agenda_heard]) hacts
  have hcancel (t : TimerHandle) :
      .cancel t ∈ actions ↔ t ∈ actions.filterMap Action.cancelled? := by
    rw [List.mem_filterMap]
    constructor
    · exact fun hmem => ⟨_, hmem, rfl⟩
    · rintro ⟨a, hmem, heq⟩
      cases a <;> cases heq
      exact hmem
  have hidle (hnone : actions.filterMap Action.cancelled? = []) : σ'.timers <:+ σ.timers := by
    rw [h.timers_of_idle hp hacts ha fun t => by simp [hcancel, hnone]]
    exact List.suffix_append ..
  have hempty (hnil : r'.pending.timers = []) : σ'.timers <:+ σ.timers := by
    have htimers := hworld.timers
    rw [hnil, tagged, List.map_eq_nil_iff] at htimers
    rw [htimers]
    exact List.nil_suffix
  have hr := hm.retimed h.relay
  generalize hevent : d.event = event at hr
  generalize hbefore : r.pending.timers = before at hr
  generalize hafter : r'.pending.timers = after at hr
  generalize harmed : actions.filterMap Action.armed? = armed at hr
  generalize hcancelled : actions.filterMap Action.cancelled? = cancelled at hr
  cases hr with
  | kept => exact hidle hcancelled
  | expired => exact hidle hcancelled
  | drained => exact hempty hafter
  | answered =>
    obtain ⟨slot, htimers, -⟩ := h.timers_of_cancel hp hacts ha (by rw [hevent]; rfl) hbefore
      fun t => by rw [hcancel, hcancelled, List.mem_singleton]
    rw [htimers]
    exact List.suffix_cons ..
  | armed =>
    obtain ⟨a, hmem, heq⟩ := List.mem_filterMap.mp (harmed ▸ List.mem_singleton_self _)
    cases a <;> cases heq
    exact (ha _ _ hmem).elim

theorem deliver (h : World r σ) (deliveries : Deliveries) : World { r with deliveries } σ :=
  ⟨h.relay.deliver deliveries, h.agenda, h.timers, h.bounded⟩

theorem handled (h : World r σ) {input : Input} {mode : Mode} : World r (σ.handled input mode) := by
  have htimers : (σ.handled input mode).timers = σ.timers := by
    rw [Scene.timers, Scene.agenda_handled, Scene.timers]
  refine ⟨h.relay, ?_, htimers ▸ h.timers, ?_⟩
  · rw [Scene.agenda_handled]
    exact h.agenda
  · rw [htimers, Scene.agenda_handled]
    exact h.bounded

/-- **Every turn keeps the timers those of the pending exchanges.** -/
theorem turn (h : World r σ) (ht : Turn answer? r σ d r' σ') : World r' σ' := by
  cases ht with
  | intro hp hm hacts deliveries =>
    have hears := h.hears_pop hp
    exact ((hears.acts (by rwa [Scene.agenda_heard]) hacts).deliver deliveries).handled

end World

end ModemRelay.Simulation
