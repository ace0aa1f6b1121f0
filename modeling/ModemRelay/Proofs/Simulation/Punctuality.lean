import ModemRelay.Proofs.Scenario.Evaluation
import ModemRelay.Proofs.Simulation.Clockwork

/-!
# The timers of every session

In every session that operations lead to (`Session.performAll`) the timers that are queued are those
of the pending exchanges that wait for the modem, and each fires when the response timeout is over
or is cancelled before (`Session.timely_performAll`).
-/

namespace ModemRelay.Simulation
open Relay

namespace World

variable {r : Relay} {σ : Scene} {due time : Duration} {event : Input}

theorem post (h : World r σ) (hd : σ.agenda.now ≤ due) (he : event.timer? = none) :
    World r (σ.post due event) := by
  have htimers : (σ.post due event).timers = σ.timers := h.agenda.lane_post_none he
  exact ⟨h.relay, h.agenda.post hd, htimers ▸ h.timers, htimers ▸ h.bounded⟩

theorem wait (h : World r σ) (hs : (σ.wait time).agenda.Sound) : World r (σ.wait time) := by
  refine ⟨h.relay, hs, h.timers, fun t ht => ?_⟩
  have hclock : σ.agenda.now ≤ (σ.wait time).agenda.now := Duration.le_max_left ..
  exact Nat.le_trans (h.bounded t ht) (Nat.add_le_add_right hclock _)

end World

/-- The timers of a session are those of the pending exchanges and on time, and none has ever been
stale. -/
structure Ticking (timeout : Duration) (r : Relay) (σ : Scene) : Prop where
  world : World r σ
  config : r.config.responseTimeout = timeout
  clocked : σ.Clocked timeout
  stale : r.tally.staleTimeouts = 0

namespace Ticking

variable {timeout : Duration} {r r' : Relay} {σ σ' : Scene} {input : Input} {timer : TimerHandle}
  {actions : List Action} {answer? : Endpoint → String → Option String}

theorem acts (h : Ticking timeout r σ) (hh : Hears r σ' input timer) (hc : σ'.Clocked timeout)
    (hm : Move r ⟨σ'.agenda.nextKey⟩ input r' actions) {σ'' : Scene}
    (hacts : Scene.ActsAll answer? actions σ' σ'') (deliveries : Deliveries) {mode : Mode} :
    Ticking timeout { r' with deliveries } (σ''.handled input mode) where
  world := ((hh.acts hm hacts).deliver deliveries).handled
  config := (congrArg Config.responseTimeout hm.config_eq).trans h.config
  clocked := by
    have := hh.clocked hm hacts (h.config.symm ▸ hc)
    rw [hm.config_eq, h.config] at this
    exact this.handled
  stale := (hm.staleTimeouts_eq hh.relay hh.timers).trans h.stale

/-- **Every operation keeps the timers on time.** -/
theorem kept : Kept answer? (Ticking timeout) where
  world h := h.world
  turn h ht := by
    cases ht with
    | intro hp hm hacts deliveries =>
      exact h.acts (h.world.hears_pop hp) (h.clocked.heard hp) (by rwa [Scene.agenda_heard]) hacts
        deliveries
  mode h hm hacts deliveries :=
    have hh : Hears _ _ _ default := h.world.hears rfl
    h.acts hh h.clocked hm hacts deliveries
  post h hd he := ⟨h.world.post hd he, h.config, h.clocked.post hd he, h.stale⟩
  wait h hl :=
    ⟨h.world.wait (h.clocked.wait hl).agenda, h.config, h.clocked.wait hl, h.stale⟩

theorem new (config : Session.Config) :
    Ticking config.relay.responseTimeout (Session.new config).relay (Session.new config).scene where
  world := ⟨.new .., .new, rfl, nofun⟩
  config := rfl
  clocked := ⟨.new, nofun, .nil, .nil, nofun, nofun, nofun⟩
  stale := rfl

end Ticking

/-- What can be relied on about the timers of a session, between operations. -/
structure Session.Timely (timeout : Duration) (s : Session) : Prop where
  /-- The timers that are queued are those of the pending exchanges that wait for the modem, one for
  each, under the handle that the exchange holds. -/
  timers : (s.agenda.lane Input.timer?).map (fun t => (some ⟨t.1.key⟩, t.2)) =
    (s.relay.pending.toList.filter (·.awaitsModem)).map fun e => (e.timer, e.id)
  /-- Each of them is due when the timeout is over. -/
  due : ∀ t ∈ s.agenda.lane Input.timer?, ∃ time,
    (time, (⟨t.1.key⟩, t.2)) ∈ s.scene.seen Trace.armed? ∧
      t.1.due.nanos = time.nanos + timeout.nanos
  /-- What was cancelled was still to fire. -/
  live : ∀ o ∈ s.scene.seen Trace.cancelled?, o.2.2 = true
  /-- What has fired did so when the timeout was over. -/
  expired : ∀ o ∈ s.scene.seen Trace.expired?, ∃ time, (time, o.2) ∈ s.scene.seen Trace.armed? ∧
    o.1.nanos = time.nanos + timeout.nanos
  armedOnce : ((s.scene.seen Trace.armed?).map (·.2.1)).Nodup
  /-- No timer has fired twice, was cancelled twice, or both. -/
  endedOnce : ((s.scene.seen Trace.expired?).map (·.2.1) ++
    (s.scene.seen Trace.cancelled?).map (·.2.1)).Nodup
  /-- What has fired or was cancelled had been armed. -/
  endedArmed : (s.scene.seen Trace.expired?).map (·.2.1) ++
    (s.scene.seen Trace.cancelled?).map (·.2.1) ⊆ (s.scene.seen Trace.armed?).map (·.2.1)
  stale : s.relay.tally.staleTimeouts = 0
  /-- Where nothing is to happen any more, no exchange waits for the modem. -/
  idle : s.agenda.size = 0 → ∀ e ∈ s.relay.pending.toList, e.awaitsModem = false

/-- The exchanges that wait for the modem are those with a timer. -/
theorem awaiting_eq {r : Relay} (h : r.Sound) :
    (r.pending.toList.filter (·.awaitsModem)).map (fun e => (e.timer, e.id)) =
      r.pending.timers.map fun t => (some t.1, t.2) := by
  rw [PendingQueue.timers, List.map_filterMap, ← List.filterMap_eq_map, List.filterMap_filter]
  refine List.filterMap_congr fun e he => ?_
  rcases h.modelFirst_or_modemFirst he with ⟨x, model, timer, rfl⟩ | ⟨x, modem, rfl⟩ <;> rfl

theorem Ticking.timely {s : Session} {timeout : Duration} (h : Ticking timeout s.relay s.scene) :
    s.Timely timeout := by
  have htimers : (s.agenda.lane Input.timer?).map (fun t => (some ⟨t.1.key⟩, t.2)) =
      (s.relay.pending.toList.filter (·.awaitsModem)).map fun e => (e.timer, e.id) := by
    rw [awaiting_eq h.world.relay, ← h.world.timers, tagged, List.map_map]
    rfl
  have haccounted := h.clocked.accounted
  exact {
    timers := htimers
    due := h.clocked.due
    live := h.clocked.live
    expired := h.clocked.expired
    armedOnce := h.clocked.once
    endedOnce := (haccounted.nodup_iff.mp h.clocked.once).sublist (List.sublist_append_left ..)
    endedArmed := fun k hk => haccounted.symm.subset (List.mem_append_left _ hk)
    stale := h.stale
    idle := fun hs e he => by
      rw [Agenda.lane_of_size hs, List.map_nil, eq_comm, List.map_eq_nil_iff,
        List.filter_eq_nil_iff] at htimers
      simpa using htimers e he }

/-- **The timers are on time in every session**, whatever is done to it. -/
theorem Session.timely_performAll (config : Config) (operations : List Operation) {s : Session}
    (hrun : performAll operations (.new config) = .done () s) :
    s.Timely config.relay.responseTimeout :=
  Ticking.timely (performAll_done Ticking.kept ⟨rfl, rfl⟩ (.new config) hrun)

namespace Session

/-- Performs an operation, a step by `stepFirst`, which can be evaluated. -/
def Operation.evaluate : Operation → Session → Outcome Session Unit
  | step, s => s.stepFirst.map fun _ => ()
  | operation, s => operation.perform s

def evaluateAll : List Operation → Session → Outcome Session Unit
  | [], s => .done () s
  | operation :: rest, s => (operation.evaluate s).andThen fun () s => evaluateAll rest s

theorem evaluateAll_eq (operations : List Operation) (s : Session) :
    evaluateAll operations s = performAll operations s := by
  induction operations generalizing s with
  | nil => rfl
  | cons operation rest ih =>
    have hfirst : operation.evaluate s = operation.perform s := by
      cases operation with
      | step => rw [Operation.evaluate, stepFirst_eq, Operation.perform]
      | _ => rfl
    rw [evaluateAll, performAll, hfirst]
    congr 1
    funext _ s
    exact ih s

/-- A session whose modem answers one command only. -/
def taciturn : Config where
  relay := { responseTimeout := .ofMillis 10 }
  modem := some { latency := 4, responses := Std.ExtTreeMap.ofList [("ATI", "Telit")] }
  model := { latency := 1, fallback := some "OK" }

/-- Operations after which one timer has been called off by an answer of the modem, two by a change
of mode, one has fired, and one is to fire. -/
def visit : List Operation :=
  [.setMode .splitVerify, .command .zero "ATI", .command .zero "ATZ",
    .inject (.ofMillis 2) .model "RING", .step, .step, .step, .step, .step, .step,
    .setMode .wardModel, .setMode .splitVerify, .command (.ofMillis 1) "ATZ",
    .scheduleMode (.ofMillis 20) .wardModel, .step, .step, .step, .inject .zero .model "RING",
    .step]

theorem performAll_visit :
    performAll visit (.new taciturn) = .done () (evaluateAll visit (.new taciturn)).state := by
  rw [← evaluateAll_eq]
  exact Outcome.eq_done (by decide +kernel)

theorem timely_performAll_visit :
    ∃ s, performAll visit (.new taciturn) = .done () s ∧
      (s.scene.seen Trace.armed?).map (·.1.millis) = [1, 1, 2, 6, 16] ∧
      (s.scene.seen Trace.cancelled?).map (·.1.millis) = [4, 4, 4] ∧
      (s.scene.seen Trace.expired?).map (·.1.millis) = [16] ∧
      s.Timely (.ofMillis 10) :=
  ⟨_, performAll_visit, by decide +kernel, by decide +kernel, by decide +kernel,
    timely_performAll taciturn visit performAll_visit⟩

end Session

end ModemRelay.Simulation
