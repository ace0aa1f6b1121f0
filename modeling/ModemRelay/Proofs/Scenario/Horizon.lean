import ModemRelay.Proofs.Scenario.Evaluation
import ModemRelay.Proofs.Scenario.Timeline
import ModemRelay.Proofs.Simulation.Loops

/-!
# How late a scenario can be

Where all times are given in milliseconds, no time in a scenario is ever out of range
(`horizon_play`). The steps come first, within one span of milliseconds (`Duration.millisSpan`);
answers follow within two more, a latency and a jitter, and timers within a fourth. As nothing is
asked for later than by a step, and no timer is armed later than by an answer, no event leads
further than that (`Input.reach`).
-/

namespace ModemRelay

namespace Relay

/-- How many spans of milliseconds an event is away from the start at most. -/
def Input.reach : Input → Nat
  | .line .modemManager _ | .setMode _ => 1
  | .line .modem _ | .line .model _ => 3
  | .timer _ => 4

theorem Input.one_le_reach (input : Input) : 1 ≤ input.reach := by
  unfold reach
  split <;> decide

theorem Input.reach_le_four (input : Input) : input.reach ≤ 4 := by
  unfold reach
  split <;> decide

/-- An action that can be carried out at a time without leading too far. -/
def Action.Fits (now : Nat) : Action → Prop
  | .send target _ => target ≠ .modemManager → now ≤ Duration.millisSpan
  | .arm delay _ => now + delay.nanos ≤ 4 * Duration.millisSpan
  | _ => True

/-- **What a step asks for leads no further than the event reaches.** -/
theorem Move.fits {r r' : Relay} {handle : TimerHandle} {input : Input} {actions : List Action}
    {now : Nat} (m : Move r handle input r' actions)
    (ht : r.config.responseTimeout.nanos ≤ Duration.millisSpan)
    (hn : now ≤ input.reach * Duration.millisSpan) : ∀ a ∈ actions, a.Fits now := by
  intro a ha
  cases a with
  | send target line =>
    intro hne
    cases m with
    | toModel | toModem | toBoth => simpa [Input.reach] using hn
    | modeTaken =>
      rcases of_mem_drain ha with ⟨_, heq⟩ | ⟨_, heq⟩ | ⟨_, heq⟩ <;> cases heq
      exact (hne rfl).elim
    | _ => simp_all
  | arm delay x =>
    obtain ⟨line, rfl, rfl, -⟩ := m.of_arm ha
    cases List.mem_singleton.mp ha
    rw [Input.reach] at hn
    change now + r.config.responseTimeout.nanos ≤ _
    omega
  | undeliverable | cancel | report | note => trivial

end Relay

namespace Simulation
open Relay

/-! ## Scenes -/

namespace Scene

/-- A scene whose times are not too far from the start. -/
structure Near (σ : Scene) : Prop where
  keyed : σ.agenda.Keyed
  now : σ.agenda.now.nanos ≤ 4 * Duration.millisSpan
  busy : ∀ e, (σ.busy e).nanos ≤ 3 * Duration.millisSpan
  queued : ∀ (slot : Slot) event, σ.agenda.queue[slot]? = some event →
    slot.due.nanos ≤ event.reach * Duration.millisSpan
  recorded : ∀ o ∈ σ.transcript, o.time.nanos ≤ 4 * Duration.millisSpan

variable {σ σ' : Scene} {a : Action} {actions : List Action} {d : Due} {agenda : Agenda}
  {due : Duration} {event : Input} {trace : Trace} {answer? : Endpoint → String → Option String}

namespace Near

theorem record (h : σ.Near) : (σ.record trace).Near where
  keyed := h.keyed
  now := h.now
  busy := h.busy
  queued := h.queued
  recorded := by
    rw [Scene.record, List.forall_mem_append, List.forall_mem_singleton]
    exact ⟨h.recorded, h.now⟩

theorem post (h : σ.Near) (hd : due.nanos ≤ event.reach * Duration.millisSpan) :
    (σ.post due event).Near where
  keyed := h.keyed.post
  now := h.now
  busy := h.busy
  queued slot event' hq := by
    rw [Scene.post, Agenda.getElem?_post] at hq
    split at hq
    · next hslot =>
      cases hslot
      cases hq
      exact hd
    · exact h.queued slot event' hq
  recorded := h.recorded

theorem promise (h : σ.Near) {e : Endpoint} (hd : due.nanos ≤ 3 * Duration.millisSpan) :
    (σ.promise e due).Near where
  keyed := h.keyed
  now := h.now
  busy e' := by
    rw [Scene.promise]
    dsimp only
    split
    · exact hd
    · exact h.busy e'
  queued := h.queued
  recorded := h.recorded

theorem disarm (h : σ.Near) (timer : TimerHandle) : (σ.disarm timer).Near := by
  refine record ⟨h.keyed.cancel _, ?_, h.busy, fun slot event hq => ?_, h.recorded⟩
  · rw [Agenda.now_cancel]
    exact h.now
  · rw [h.keyed.getElem?_cancel] at hq
    split at hq
    · cases hq
    · exact h.queued slot event hq

/-- **Carrying out an action that fits leads not too far.** -/
theorem acts (h : σ.Near) (ha : Acts answer? a σ σ') (hf : a.Fits σ.agenda.now.nanos)
    (hq : ∀ line, answer? .modemManager line = none) : σ'.Near := by
  cases ha with
  | silent | reported => exact h.record
  | undelivered => exact h
  | cancelled => exact h.disarm _
  | @asked target line answer due _ hanswer _ _ hl =>
    have hne : target ≠ .modemManager := by
      rintro rfl
      rw [hq] at hanswer
      cases hanswer
    have hnow := hf hne
    have hbusy := h.busy target
    have hlongest : Responder.longest.nanos = 2 * Duration.millisSpan := rfl
    have hdue : due.nanos ≤ 3 * Duration.millisSpan := by
      rcases hl with hl | hl
      · exact Nat.le_trans hl hbusy
      · omega
    have hreach : (Input.line target answer).reach = 3 := by
      cases target with
      | modemManager => exact (hne rfl).elim
      | modem | model => rfl
    exact (h.record.post (by rwa [hreach])).promise hdue
  | armed hd =>
    rw [Duration.add?_eq_some_iff] at hd
    exact (h.post (hd ▸ hf)).record

theorem actsAll (h : σ.Near) (hacts : ActsAll answer? actions σ σ')
    (hf : ∀ a ∈ actions, a.Fits σ.agenda.now.nanos)
    (hq : ∀ line, answer? .modemManager line = none) : σ'.Near := by
  induction hacts with
  | nil => exact h
  | cons ha _ ih =>
    rw [List.forall_mem_cons] at hf
    exact ih (h.acts ha hf.1 hq) (ha.now_eq ▸ hf.2)

theorem heard (h : σ.Near) : (σ.heard d).Near :=
  heard_invariant (I := Near) h (fun _ _ => h.record) fun _ _ => h.record

theorem handled (h : σ.Near) {input : Input} {mode : Mode} : (σ.handled input mode).Near :=
  handled_invariant (I := Near) h fun _ => h.record

/-- An event that is taken off comes no later than it reaches. -/
theorem time_le (h : σ.Near) (hp : σ.agenda.popNext = some (d, agenda)) :
    d.time.nanos ≤ d.event.reach * Duration.millisSpan :=
  h.queued ⟨d.time, d.key⟩ d.event (Agenda.popNext_eq_some hp).1

theorem popNext (h : σ.Near) (hs : σ.agenda.Sound) (hp : σ.agenda.popNext = some (d, agenda)) :
    Near { σ with agenda } where
  keyed := h.keyed.popNext hp
  now := by
    have hreach := Nat.mul_le_mul_right Duration.millisSpan d.event.reach_le_four
    rw [hs.now_of_popNext hp]
    exact Nat.le_trans (h.time_le hp) hreach
  busy := h.busy
  queued slot event hq := h.queued slot event (Agenda.getElem?_of_popNext hp hq)
  recorded := h.recorded

end Near

/-- No action that fits stops. -/
theorem Stops.not_fits (h : Stops a σ σ') : ¬a.Fits σ.agenda.now.nanos := by
  intro hf
  have hspan : 4 * Duration.millisSpan < 18_446_744_073_709_551_616_000_000_000 := by decide
  cases h with
  | onLine hne hl =>
    have hnow := hf hne
    have hlongest : Responder.longest.nanos = 2 * Duration.millisSpan := rfl
    rw [Duration.add?_eq_none_iff] at hl
    omega
  | onTimer hl =>
    rw [Duration.add?_eq_none_iff] at hl
    exact Nat.not_lt_of_le (Nat.le_trans hl hf) hspan

end Scene

/-! ## Sessions -/

/-- A relay and its scene whose times are not too far from the start. -/
structure Near (r : Relay) (σ : Scene) : Prop where
  world : World r σ
  timeout : r.config.responseTimeout.nanos ≤ Duration.millisSpan
  scene : σ.Near

namespace Near

variable {r r' : Relay} {σ σ' : Scene} {d : Due} {agenda : Agenda} {actions : List Action}
  {answer? : Endpoint → String → Option String}

/-- What the relay asks for when it hears of an event fits. -/
theorem fits (h : Near r σ) (hp : σ.agenda.popNext = some (d, agenda))
    (hm : Move r ⟨agenda.nextKey⟩ d.event r' actions) :
    ∀ a ∈ actions, a.Fits (Scene.heard { σ with agenda } d).agenda.now.nanos := by
  rw [Scene.agenda_heard]
  refine hm.fits h.timeout ?_
  rw [h.world.agenda.now_of_popNext hp]
  exact h.scene.time_le hp

/-- **Every turn leads not too far.** -/
theorem turn (h : Near r σ) (ht : Turn answer? r σ d r' σ')
    (hq : ∀ line, answer? .modemManager line = none) : Near r' σ' := by
  have hw := h.world.turn ht
  cases ht with
  | intro hp hm hacts deliveries =>
    refine ⟨hw, ?_, ?_⟩
    · exact (congrArg (·.responseTimeout.nanos) hm.config_eq).trans_le h.timeout
    · have hheard := (h.scene.popNext h.world.agenda hp).heard (d := d)
      exact (hheard.actsAll hacts (h.fits hp hm) hq).handled

/-- **No turn halts.** -/
theorem not_halt (h : Near r σ) : ¬Halt answer? r σ d r' σ' := by
  intro hh
  cases hh with
  | onLine hp hm hne hacts deliveries late =>
    have hfits := h.fits hp hm _ (List.mem_append_right _ List.mem_cons_self)
    rw [← hacts.now_eq] at hfits
    exact Scene.Stops.not_fits (.onLine hne late) hfits
  | onTimer hp hm hacts deliveries late =>
    have hfits := h.fits hp hm _ (List.mem_append_right _ List.mem_cons_self)
    rw [← hacts.now_eq] at hfits
    exact Scene.Stops.not_fits (.onTimer late) hfits

end Near

/-- A session whose times, past and to come, are within a number of nanoseconds. -/
structure Session.Within (limit : Nat) (s : Session) : Prop where
  now : s.now.nanos ≤ limit
  due : ∀ slot ∈ s.agenda.queue, slot.due.nanos ≤ limit
  recorded : ∀ o ∈ s.transcript, o.time.nanos ≤ limit

theorem Near.within {s : Session} (h : Near s.relay s.scene) :
    s.Within (4 * Duration.millisSpan) where
  now := h.scene.now
  due slot hs := by
    obtain ⟨event, hq⟩ := Agenda.mem_queue_iff.mp hs
    have hreach := Nat.mul_le_mul_right Duration.millisSpan event.reach_le_four
    exact Nat.le_trans (h.scene.queued slot event hq) hreach
  recorded o ho := h.scene.recorded o (Array.mem_toList_iff.mpr ho)

end Simulation

namespace Scenario
open Simulation Relay

theorem Start.near {s : Scenario} {r : Relay} {σ : Scene} (h : s.Start r σ)
    (ht : s.relay.responseTimeout.nanos ≤ Duration.millisSpan) : Near r σ where
  world := h.world
  timeout := h.config ▸ ht
  scene := {
    keyed := h.world.agenda.toKeyed
    now := by
      rw [h.agenda, now_postAll]
      exact Nat.zero_le _
    busy := fun e => by
      rw [h.busy]
      exact Nat.zero_le _
    queued := fun slot event hq => by
      rw [h.agenda] at hq
      obtain ⟨step, -, hdue, -⟩ := getElem?_postAll_new.mp hq
      rw [hdue]
      exact Nat.le_trans (Duration.nanos_ofMillis_le _)
        (Nat.le_mul_of_pos_left _ event.one_le_reach)
    recorded := by
      rw [h.transcript, List.forall_mem_singleton]
      exact Nat.zero_le _ }

/-- **No time in a scenario is out of range.** Where the response timeout is given in milliseconds,
as all other times are, the session can be started, each of its steps can be done, however many
there are, and none leads beyond four times the longest span that can be given so. Nor does an
answer ever come before it has been asked for, so that the delay until it comes can be told. -/
theorem horizon_play (s : Scenario) (ms : UInt64) (ht : s.relay.responseTimeout = .ofMillis ms) :
    (∃ start, s.session = .done () start ∧ ∀ n session, Session.Handles n start session →
      session.Within (4 * Duration.millisSpan) ∧ ∀ stopped, session.step ≠ .overflow stopped) ∧
    (∃ n session, s.play = .done n session ∧ session.Within (4 * Duration.millisSpan)) ∧
    ∀ (r r' : Responder) (env env' : Environment) (command response : String) (delay : Duration),
      r.answer command env = .done (some (delay, response)) (r', env') →
        env.now ≤ r'.busyUntil ∧ delay = r'.busyUntil - env.now := by
  have hspan : s.relay.responseTimeout.nanos ≤ Duration.millisSpan := by
    rw [ht]
    exact Duration.nanos_ofMillis_le ms
  have hturn {r r' σ σ' d} (h : Near r σ) (ht : Turn s.answer? r σ d r' σ') : Near r' σ' :=
    h.turn ht fun _ => rfl
  obtain ⟨start, hstart, hopen, hs⟩ := s.session_done
  refine ⟨⟨start, hstart, fun n session hn => ?_⟩, ?_, ?_⟩
  · obtain ⟨ho, h⟩ := hn.kept (fun h => h.world.relay) hturn hopen (hs.near hspan)
    refine ⟨h.within, fun stopped hstop => ?_⟩
    obtain ⟨-, d, hd⟩ := Session.step_overflow ho.closed h.world.relay hstop
    exact h.not_halt hd
  · cases hplay : s.play with
    | done n session =>
      have h := play_done (fun h => h.world.relay) hturn (fun h => h.near hspan) hplay
      exact ⟨n, session, rfl, h.within⟩
    | overflow session =>
      obtain ⟨r, σ, d, h, hh⟩ :=
        play_overflow (fun h => h.world.relay) hturn (fun h => h.near hspan) hplay
      exact (h.not_halt hh).elim
  · intro r r' env env' command response delay hanswer
    obtain ⟨-, -, -, ⟨-, hnone, -⟩ | ⟨answer, -, hn, -, -, hreply⟩⟩ := Responder.answer_done hanswer
    · cases hnone
    · cases hreply
      exact ⟨hn, rfl⟩

/-- A session in which all times are the latest and longest that can be given. -/
def distant : Scenario where
  seed := 7
  mode := .splitVerify
  relay := { responseTimeout := .ofMillis 18446744073709551615 }
  modem := some {}
  model :=
    { latency := 18446744073709551615, jitter := 18446744073709551615, fallback := some "OK" }
  steps := [.command 18446744073709551615 "ATI", .inject 18446744073709551615 .modem "RING",
    .command 18446744073709551615 "ATZ"]

theorem horizon_play_distant :
    distant.relay.responseTimeout = .ofMillis 18446744073709551615 ∧
      ∃ n session, distant.play = .done n session ∧
        session.Within (4 * Duration.millisSpan) ∧ 3 * Duration.millisSpan < session.now.nanos := by
  obtain ⟨-, ⟨n, session, hplay, hwithin⟩, -⟩ := horizon_play distant 18446744073709551615 rfl
  obtain ⟨m, hevaluated⟩ := distant.play_eq_done (by decide +kernel)
  cases hplay.symm.trans hevaluated
  exact ⟨rfl, n, _, hplay, hwithin, by decide +kernel⟩

end Scenario

end ModemRelay
