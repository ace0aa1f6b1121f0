import ModemRelay.Proofs.Scenario.Ledger
import ModemRelay.Proofs.Simulation.Streams

/-!
# A session and its books

`Ledger.Records` says that a ledger is that of a session: its places are filled with the answers
that the relay and the agenda hold, and what the relay has reported and counted is what the
judgements come to. While answers are compared, each turn makes one entry.
-/

namespace ModemRelay.Scenario
open Simulation Relay

variable {timeout : Duration} {l : Ledger} {r r' : Relay} {σ σ' : Scene} {d : Due}
  {agenda : Agenda} {rest : PendingQueue} {line modem model : String} {x : ExchangeId}
  {timer : TimerHandle} {answer? : Endpoint → String → Option String}

/-- What is reported when both answers are there is the failure of their judgement. -/
theorem failures_verdict (modem model : String) :
    (verdict modem model).filterMap (·.failure?) =
      [Judgement.mk model (some modem)].filterMap (·.failure?) := by
  unfold verdict
  by_cases h : modem = model <;> simp [h, Judgement.failure?, Action.failure?]

theorem matched_compared (t : Tally) (modem model : String) :
    (compared t modem model).matched =
      t.matched + [Judgement.mk model (some modem)].countP (·.agrees) := by
  unfold compared
  by_cases h : modem = model <;> simp [h, Judgement.agrees]

namespace Ledger

/-- The ledger is that of a relay and its scene. -/
structure Records (l : Ledger) (timeout : Duration) (r : Relay) (σ : Scene) : Prop where
  balanced : l.Balanced timeout
  modems : l.modems = σ.stream .modem
  coming : l.coming = σ.coming .modem
  timers : l.timers = σ.timers.map (·.1)
  now : l.now = σ.agenda.now
  models : l.judged ++ l.waiting = σ.arrivals .model
  waiting : l.waiting.map (·.2) = r.pending.modelValues
  kept : l.kept.map (·.2) = r.pending.modemValues
  failures : σ.failures = (pairing timeout l.judged l.modems).filterMap (·.failure?)
  matched : r.tally.matched = (pairing timeout l.judged l.modems).countP (·.agrees)

namespace Records

theorem handled (h : l.Records timeout r σ) (deliveries : Deliveries) {input : Input}
    {mode : Mode} : l.Records timeout { r with deliveries } (σ.handled input mode) where
  balanced := h.balanced
  modems := h.modems.trans Scene.stream_handled.symm
  coming := h.coming.trans Scene.coming_handled.symm
  timers := by rw [h.timers, Scene.timers, Scene.timers, Scene.agenda_handled]
  now := by rw [h.now, Scene.agenda_handled]
  models := h.models.trans Scene.arrivals_handled.symm
  waiting := h.waiting
  kept := h.kept
  failures := Scene.failures_handled.trans h.failures
  matched := h.matched

/-- What is still to come makes no difference to what has been judged. -/
theorem judged_arrivals (h : l.Records timeout r σ) :
    pairing timeout l.judged (σ.arrivals .modem) = pairing timeout l.judged l.modems ∧
      leftover timeout l.judged (σ.arrivals .modem) = l.kept := by
  have hunused := h.balanced.unused
  rw [h.modems, h.coming, Scene.stream] at hunused
  rw [h.modems, Scene.stream]
  exact pairing_of_leftover hunused

section Entries

variable (h : l.Records timeout r σ) (hw : World r σ) (hp : σ.agenda.popNext = some (d, agenda))

include h hw hp

theorem now_le : l.now ≤ d.time := by
  rw [h.now, ← hw.agenda.now_of_popNext hp]
  exact hw.agenda.now_le_of_popNext hp

/-- One more model answer still finds one of the modem's. -/
theorem enough_model {actions : List Action} (hd : d.event = .line .model line)
    (hacts : Scene.ActsAll answer? actions (Scene.heard { σ with agenda } d) σ')
    (hstream : σ'.stream .modem = σ.stream .modem)
    (henough : (σ'.arrivals .model).length ≤ (σ'.stream .modem).length) :
    l.judged.length + l.waiting.length < l.modems.length := by
  rw [hacts.arrivals_turn hw.agenda hp, hd, hstream, ← h.models, ← h.modems, List.length_append,
    List.length_append] at henough
  exact henough

/-- Where no timer fires and none is armed or cancelled, the timers stay. -/
theorem timers_idle {actions : List Action} (hd : d.event.timer? = none)
    (hacts : Scene.ActsAll answer? actions (Scene.heard { σ with agenda } d) σ')
    (ha : ∀ delay x, .arm delay x ∉ actions) (hc : ∀ t, .cancel t ∉ actions) :
    l.timers = σ'.timers.map (·.1) := by
  rw [h.timers, hw.timers_of_idle hp hacts ha hc, hd]
  rfl

/-- A command is put to both sides. -/
theorem toBoth (hd : d.event = .line .modemManager line)
    (hacts : Scene.ActsAll answer? [.send .modem line, .send .model line]
      (Scene.heard { σ with agenda } d) σ')
    {new : List (Slot × String)} (hcoming : σ'.coming .modem = σ.coming .modem ++ new)
    (hstream : σ'.stream .modem = σ.stream .modem ++ new.map fun x => (x.1.due, x.2)) :
    ∃ l' : Ledger, l'.Records timeout r σ' := by
  have htimers := h.timers_idle hw hp (by rw [hd]; rfl) hacts (by simp) (by simp)
  obtain ⟨hb, hpairing⟩ := h.balanced.ask (h.now_le hw hp) new
  refine ⟨_, hb, ?_, ?_, htimers, (hacts.now_turn hw.agenda hp).symm, ?_, h.waiting, h.kept, ?_,
    ?_⟩
  · rw [hstream, h.modems]
  · rw [hcoming, h.coming]
  · rw [hacts.arrivals_turn hw.agenda hp, hd, ← h.models]
    exact (List.append_nil _).symm
  · rw [hacts.failures_turn, h.failures, hpairing]
    exact List.append_nil _
  · rw [hpairing, h.matched]

/-- A modem answer is kept for the model. -/
theorem modemFirst (hd : d.event = .line .modem line)
    (hpending : ∀ e ∈ r.pending.toList, e.ModemFirst)
    (hacts : Scene.ActsAll answer? [] (Scene.heard { σ with agenda } d) σ')
    (hcoming : σ.coming .modem = (⟨d.time, d.key⟩, line) :: σ'.coming .modem)
    (hstream : σ'.stream .modem = σ.stream .modem) :
    ∃ l' : Ledger, l'.Records timeout { r with pending := r.pending.pushModem line } σ' := by
  have htimers := h.timers_idle hw hp (by rw [hd]; rfl) hacts (by simp) (by simp)
  have hwaiting := h.waiting
  rw [PendingQueue.modelValues_of_modemFirst hpending, List.map_eq_nil_iff] at hwaiting
  refine ⟨_, h.balanced.keep hwaiting (h.coming.trans hcoming) (h.now_le hw hp),
    h.modems.trans hstream.symm, rfl, htimers, (hacts.now_turn hw.agenda hp).symm, ?_, ?_, ?_, ?_,
    h.matched⟩
  · rw [hacts.arrivals_turn hw.agenda hp, hd, ← h.models]
    exact (List.append_nil _).symm
  · rw [h.waiting, PendingQueue.modelValues_pushModem]
  · rw [List.map_append, h.kept, PendingQueue.modemValues_pushModem]
    rfl
  · rw [hacts.failures_turn, h.failures]
    exact List.append_nil _

/-- A modem answer is used for the first of the model answers that wait. -/
theorem modemPaired (hd : d.event = .line .modem line)
    (hpending : r.pending.toList = .ofModel x model timer :: rest.toList)
    (hacts : Scene.ActsAll answer? (.cancel timer :: verdict line model)
      (Scene.heard { σ with agenda } d) σ')
    (hcoming : σ.coming .modem = (⟨d.time, d.key⟩, line) :: σ'.coming .modem)
    (hstream : σ'.stream .modem = σ.stream .modem) :
    ∃ l' : Ledger, l'.Records timeout
      { r with pending := rest, tally := compared r.tally line model } σ' := by
  obtain ⟨hmodels, hmodems, hguards⟩ := PendingQueue.views_of_cons_ofModel hpending
  obtain ⟨slot, htimers, hlt⟩ := hw.timers_of_cancel hp hacts
    (by simp) (by rw [hd]; rfl) hguards (by simp)
  have hwaiting := h.waiting
  rw [hmodels, List.map_eq_cons_iff] at hwaiting
  obtain ⟨a, waiting, hwait, rfl, hrest⟩ := hwaiting
  obtain ⟨hb, hpairing⟩ := h.balanced.stop hwait (h.coming.trans hcoming)
    (h.timers.trans (congrArg _ htimers)) hlt
  refine ⟨_, hb, h.modems.trans hstream.symm, rfl, rfl, (hacts.now_turn hw.agenda hp).symm, ?_,
    hrest, h.kept.trans hmodems, ?_, ?_⟩
  · rw [hacts.arrivals_turn hw.agenda hp, ← h.models, hwait, hd]
    simp
  · rw [hacts.failures_turn, h.failures, hpairing, List.filterMap_append, ← failures_verdict]
    rfl
  · rw [hpairing, List.countP_append, ← h.matched]
    exact matched_compared ..

/-- A model answer is compared with the first of the modem answers that are kept. -/
theorem modelPaired (hd : d.event = .line .model line)
    (hpending : r.pending.toList = .ofModem x modem :: rest.toList)
    (hacts : Scene.ActsAll answer? (verdict modem line) (Scene.heard { σ with agenda } d) σ')
    (hcoming : σ.coming .modem = σ'.coming .modem) (hstream : σ'.stream .modem = σ.stream .modem)
    (henough : (σ'.arrivals .model).length ≤ (σ'.stream .modem).length) :
    ∃ l' : Ledger, l'.Records timeout
      { r with pending := rest, tally := compared r.tally modem line } σ' := by
  obtain ⟨hmodels, hmodems, -⟩ := PendingQueue.views_of_cons_ofModem hpending
  have htimers := h.timers_idle hw hp (by rw [hd]; rfl) hacts (by simp) (by simp)
  have hkept := h.kept
  rw [hmodems, List.map_eq_cons_iff] at hkept
  obtain ⟨b, kept, hkeep, rfl, hrest⟩ := hkept
  have hwait : l.waiting = [] := h.balanced.oneSided.resolve_right (by simp [hkeep])
  have hmore := h.enough_model hw hp hd hacts hstream henough
  obtain ⟨hb, hpairing⟩ := @Balanced.meet _ _ (d.time, line) _ _ h.balanced hkeep
    (h.now_le hw hp) hmore
  refine ⟨_, hb, h.modems.trans hstream.symm, h.coming.trans hcoming, htimers,
    (hacts.now_turn hw.agenda hp).symm, ?_, h.waiting.trans hmodels, hrest, ?_, ?_⟩
  · rw [hacts.arrivals_turn hw.agenda hp, ← h.models, hwait, hd]
    simp
  · rw [hacts.failures_turn, h.failures, hpairing, List.filterMap_append, ← failures_verdict]
  · rw [hpairing, List.countP_append, ← h.matched]
    exact matched_compared ..

/-- A model answer waits for the modem. -/
theorem modelFirst (hd : d.event = .line .model line)
    (hpending : ∀ e ∈ r.pending.toList, e.ModelFirst) (ht : r.config.responseTimeout = timeout)
    (hacts : Scene.ActsAll answer? [.arm r.config.responseTimeout x]
      (Scene.heard { σ with agenda } d) σ')
    (hcoming : σ.coming .modem = σ'.coming .modem) (hstream : σ'.stream .modem = σ.stream .modem)
    (henough : (σ'.arrivals .model).length ≤ (σ'.stream .modem).length) :
    ∃ l' : Ledger, l'.Records timeout
      { r with pending := r.pending.pushModel line timer } σ' := by
  obtain ⟨due, hdue, htimers⟩ := hw.timers_of_arm hp hacts
  have hsame : σ.timers = agenda.lane Input.timer? := by
    rw [Scene.timers, Agenda.lane_popNext hp, hd]
    rfl
  have hkept := h.kept
  rw [PendingQueue.modemValues_of_modelFirst hpending, List.map_eq_nil_iff] at hkept
  have hmore := h.enough_model hw hp hd hacts hstream henough
  have hkeys : ∀ x ∈ l.coming, x.1.key < agenda.nextKey := by
    intro x hx
    rw [h.coming] at hx
    rw [Agenda.nextKey_of_popNext hp]
    exact hw.agenda.key_lt _ (Agenda.mem_queue_of_mem_lane hx)
  rw [hw.agenda.now_of_popNext hp, ht] at hdue
  have hb := @Balanced.wait _ _ (d.time, line) ⟨due, agenda.nextKey⟩ h.balanced hkept hdue hkeys
    hmore d.time
  refine ⟨_, hb, h.modems.trans hstream.symm, h.coming.trans hcoming, ?_,
    (hacts.now_turn hw.agenda hp).symm, ?_, ?_, ?_, ?_, h.matched⟩
  · rw [htimers, ← hsame, List.map_append, ← h.timers]
    rfl
  · rw [hacts.arrivals_turn hw.agenda hp, ← h.models, hd]
    simp
  · rw [List.map_append, h.waiting, PendingQueue.modelValues_pushModel]
    rfl
  · rw [h.kept, PendingQueue.modemValues_pushModel]
  · rw [hacts.failures_turn, h.failures]
    exact List.append_nil _

/-- The first of the model answers that wait is given up. -/
theorem expired (hd : d.event = .timer x)
    (hpending : Exchange.ofModel x model timer ∈ r.pending.toList)
    (hrest : rest.toList = r.pending.toList.eraseP (·.id == x))
    (hacts : Scene.ActsAll answer? [.report (.timeout model), .send .modemManager model]
      (Scene.heard { σ with agenda } d) σ')
    (hcoming : σ.coming .modem = σ'.coming .modem) (hstream : σ'.stream .modem = σ.stream .modem)
    (tally : Tally) (htally : tally.matched = r.tally.matched) :
    ∃ l' : Ledger, l'.Records timeout { r with pending := rest, tally } σ' := by
  have hguards := hw.timers_pop hp
  rw [hd] at hguards
  obtain ⟨hmodels, hmodems, -⟩ :=
    PendingQueue.views_of_cons_ofModel (hw.relay.cons_of_expired hguards hpending hrest)
  have htimers := hw.timers_of_idle hp hacts (by simp) (by simp)
  rw [hd] at htimers
  have hwaiting := h.waiting
  rw [hmodels, List.map_eq_cons_iff] at hwaiting
  obtain ⟨a, waiting, hwait, rfl, hleft⟩ := hwaiting
  have hlater : ∀ x ∈ l.coming, (⟨d.time, d.key⟩ : Slot) < x.1 := by
    intro x hx
    rw [h.coming, Scene.coming, Agenda.lane_popNext hp, hd] at hx
    exact Agenda.lt_of_popNext hp (Agenda.mem_queue_of_mem_lane hx)
  obtain ⟨hb, hpairing⟩ := h.balanced.expire hwait (h.timers.trans (congrArg _ htimers)) hlater
    d.time
  refine ⟨_, hb, h.modems.trans hstream.symm, h.coming.trans hcoming, rfl,
    (hacts.now_turn hw.agenda hp).symm, ?_, hleft, h.kept.trans hmodems, ?_, ?_⟩
  · rw [hacts.arrivals_turn hw.agenda hp, ← h.models, hwait, hd]
    simp
  · rw [hacts.failures_turn, h.failures, hpairing, List.filterMap_append]
    rfl
  · rw [hpairing, List.countP_append, ← h.matched, htally]
    rfl

/-- **While answers are compared, each turn makes one entry.** -/
theorem acts {actions : List Action} (hmode : r.mode = .splitVerify)
    (ht : r.config.responseTimeout = timeout) (hnext : d.event.mode? = none)
    (hprom : σ.Promised .modem) (hm : Move r ⟨agenda.nextKey⟩ d.event r' actions)
    (hacts : Scene.ActsAll answer? actions (Scene.heard { σ with agenda } d) σ')
    (henough : (σ'.arrivals .model).length ≤ (σ'.stream .modem).length) :
    ∃ l' : Ledger, l'.Records timeout r' σ' := by
  obtain ⟨-, left, new, hcoming, hcoming', hstream, hnew⟩ := hw.stream_acts hp hm hacts hprom
  rw [hm.lines_modem hmode hnext] at hnew
  generalize hd : d.event = input at hm hnext hcoming hnew
  -- the modem is only asked where a command comes
  have hquiet : input.line? .modemManager = none →
      σ.coming .modem = ((input.line? .modem).map (⟨d.time, d.key⟩, ·)).toList ++
        σ'.coming .modem ∧ σ'.stream .modem = σ.stream .modem := by
    intro hnone
    rw [hnone, Option.toList_none, List.filterMap_nil, List.map_eq_nil_iff] at hnew
    rw [hcoming', hstream, hnew, List.append_nil]
    exact ⟨hcoming, List.append_nil _⟩
  cases hm with
  | toModel hr | toModem hr | modemDropped hr | modemRelayed hr | modelRelayed hr
  | modelDropped hr => simp [hmode] at hr
  | modemLate hr => exact (hr hmode).elim
  | modeRefused | modeKept | modeTaken => cases hnext
  | toBoth =>
    exact h.toBoth hw hp hd hacts (hcoming'.trans (congrArg (· ++ new) hcoming.symm)) hstream
  | modemFirst hr hq =>
    obtain ⟨hc, hs⟩ := hquiet rfl
    exact h.modemFirst hw hp hd hq hacts hc hs
  | modemPaired hr hq =>
    obtain ⟨hc, hs⟩ := hquiet rfl
    exact h.modemPaired hw hp hd hq hacts hc hs
  | modelPaired hr hq =>
    obtain ⟨hc, hs⟩ := hquiet rfl
    exact h.modelPaired hw hp hd hq hacts hc hs henough
  | modelFirst hr hq =>
    obtain ⟨hc, hs⟩ := hquiet rfl
    exact h.modelFirst hw hp hd hq ht hacts hc hs henough
  | timeout hr hq hl =>
    obtain ⟨hc, hs⟩ := hquiet rfl
    exact h.expired hw hp hd hq hl hacts hc hs _ rfl
  | stale hq =>
    have hguards := hw.timers_pop hp
    rw [hd] at hguards
    obtain ⟨model, tail, htail⟩ := hw.relay.head_of_timers hguards
    exact (hq _ (htail ▸ List.mem_cons_self) rfl Exchange.modelFirst_ofModel).elim

end Entries

end Records

end Ledger

end ModemRelay.Scenario
