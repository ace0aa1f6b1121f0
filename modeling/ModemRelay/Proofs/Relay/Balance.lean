import ModemRelay.Proofs.Relay.Calls
import ModemRelay.Proofs.Relay.Counters
import ModemRelay.Proofs.Relay.Handover

/-!
# The counters balance

The counters of a relay are held against its calls and the failures that it has reported
(`Balanced`): each line and each timer that has come is in one of the counters or waits, and each
line that has been handed over has a cause that is counted. A step adds as much to the one side as
to the other, counter by counter, and so the two sides agree after any number of calls
(`balanced_handleAll`).
-/

namespace ModemRelay.Relay

/-! ## What is counted -/

namespace Call

/-- A line comes from the endpoint, in the mode. -/
def brings (source : Endpoint) (mode : Mode) (c : Call) : Bool :=
  (c.input.line? source).isSome && c.before.mode == mode

/-- A line of the modem is let go of as late. -/
def isLate (c : Call) : Bool := c.before.tally.lateModemLines < c.after.tally.lateModemLines

/-- The exchanges that are drained, which are those that a change of mode finds pending. -/
def drained (c : Call) : List Exchange :=
  if c.after.mode = c.before.mode then [] else c.before.pending.toList

end Call

/-- The exchanges that are drained in the calls. -/
def drainedIn (calls : List Call) : List Exchange := calls.flatMap Call.drained

/-- The exchanges that changes to the mode drain in the calls. -/
def drainedInto (mode : Mode) (calls : List Call) : List Exchange :=
  drainedIn (calls.filter (·.after.mode = mode))

/-- The counters of the relay agree with the calls that led to it and the failures reported. -/
structure Balanced (calls : List Call) (failures : List Failure) (r : Relay) : Prop where
  /-- An answer of the model that is to be compared has been compared or timed out, or it waits. -/
  models : calls.countP (·.brings .model .splitVerify) =
    r.tally.matched + r.tally.mismatched + r.tally.timedOut + r.pending.modelValues.length
  /-- An answer of the modem that is to be compared has been compared or drained, or it waits. -/
  modems : calls.countP (·.brings .modem .splitVerify) =
    r.tally.matched + r.tally.mismatched + r.pending.modemValues.length +
      (drainedIn calls).countP (·.awaitsModel)
  drained : r.tally.drained =
    (drainedIn calls).countP (·.awaitsModem) + (drainedIn calls).countP (·.awaitsModel)
  /-- A timer was stale or in time, and without one the drained exchanges have timed out. -/
  timers : calls.countP (·.input.timer?.isSome) + (drainedIn calls).countP (·.awaitsModem) =
    r.tally.staleTimeouts + r.tally.timedOut
  mismatched : r.tally.mismatched = failures.countP (!·.isTimeout)
  timedOut : r.tally.timedOut = failures.countP (·.isTimeout)
  /-- Each line handed over, taken or refused, is a command, the command's second copy, an answer
  passed on, or the answer that ends an exchange. -/
  total : r.deliveries.sentToModemManager + r.deliveries.sentToModem + r.deliveries.postedToModel +
      r.deliveries.sendFailures =
    calls.countP (fun c => (c.input.line? .modemManager).isSome) +
      calls.countP (·.brings .modemManager .splitVerify) +
      calls.countP (·.brings .model .wardModel) +
      calls.countP (fun c => c.brings .modem .passThrough && !c.isLate) +
      r.tally.matched + r.tally.mismatched + r.tally.timedOut +
      (drainedInto .passThrough calls).countP (·.awaitsModel)

@[simp] theorem drainedIn_singleton (c : Call) : drainedIn [c] = c.drained := by
  simp [drainedIn]

@[simp] theorem drainedIn_append (calls calls' : List Call) :
    drainedIn (calls ++ calls') = drainedIn calls ++ drainedIn calls' := List.flatMap_append

theorem drainedInto_singleton (mode : Mode) (c : Call) :
    drainedInto mode [c] = if c.after.mode = mode then c.drained else [] := by
  unfold drainedInto
  split <;> simp [drainedIn, *]

@[simp] theorem drainedInto_append (mode : Mode) (calls calls' : List Call) :
    drainedInto mode (calls ++ calls') = drainedInto mode calls ++ drainedInto mode calls' := by
  simp [drainedInto]

theorem Call.drained_of_eq {c : Call} (h : c.after.mode = c.before.mode) : c.drained = [] :=
  if_pos h

theorem Balanced.new (config : Config) (hasModem : Bool) :
    Balanced [] [] (.new config hasModem) := by
  constructor <;> rfl

/-! ## One step -/

namespace Sound

variable {r : Relay}

theorem countP_awaitsModem (h : r.Sound) :
    r.pending.toList.countP (·.awaitsModem) = r.pending.modelValues.length := by
  rw [PendingQueue.modelValues, List.length_filterMap_eq_countP]
  refine List.countP_congr fun e he => ?_
  rcases h.modelFirst_or_modemFirst he with ⟨x, model, timer, rfl⟩ | ⟨x, modem, rfl⟩
  · simp
  · simp

theorem countP_awaitsModel (h : r.Sound) :
    r.pending.toList.countP (·.awaitsModel) = r.pending.modemValues.length := by
  rw [PendingQueue.modemValues, List.length_filterMap_eq_countP]
  refine List.countP_congr fun e he => ?_
  rcases h.modelFirst_or_modemFirst he with ⟨x, model, timer, rfl⟩ | ⟨x, modem, rfl⟩
  · simp
  · simp

theorem length_toList (h : r.Sound) :
    r.pending.toList.length = r.pending.modelValues.length + r.pending.modemValues.length := by
  rcases h.oneSided with hs | hs
  · rw [PendingQueue.length_modelValues hs, PendingQueue.modemValues_of_modelFirst hs]
    rfl
  · rw [PendingQueue.length_modemValues hs, PendingQueue.modelValues_of_modemFirst hs]
    exact (Nat.zero_add _).symm

end Sound

section

variable (t : Tally) (modem model : String)

theorem mismatched_compared :
    (compared t modem model).mismatched =
      t.mismatched + ((verdict modem model).filterMap (·.failure?)).countP (!·.isTimeout) := by
  unfold compared verdict
  split <;> rfl

theorem timeouts_verdict :
    ((verdict modem model).filterMap (·.failure?)).countP (·.isTimeout) = 0 := by
  unfold verdict
  split <;> rfl

theorem offers_verdict : (verdict modem model).countP (·.isOffer) = 1 := by
  unfold verdict
  split <;> rfl

end

theorem failures_drain (next : Mode) (l : List Exchange) :
    (l.flatMap (drainRequests next)).filterMap (·.failure?) =
      (l.filterMap (·.modelValue)).map .timeout := by
  have hone (e : Exchange) : (drainRequests next e).filterMap (·.failure?) =
      (e.modelValue.map Failure.timeout).toList := by
    unfold drainRequests
    cases e.modelValue with
    | none =>
      by_cases hn : next = .passThrough <;> cases e.modemValue <;> simp [hn, Action.failure?]
    | some model => cases e.timer <;> rfl
  rw [List.filterMap_flatMap, List.flatMap_congr fun e _ => hone e, List.map_filterMap,
    List.filterMap_eq_flatMap_toList]

theorem Sound.offers_drain {r : Relay} (h : r.Sound) (next : Mode) :
    (r.pending.toList.flatMap (drainRequests next)).countP (·.isOffer) =
      r.pending.modelValues.length +
        if next = .passThrough then r.pending.modemValues.length else 0 := by
  have hlines : (r.pending.toList.flatMap (drainRequests next)).filterMap (·.line? .modemManager) =
      r.pending.toList.filterMap (salvage next) := Move.lines_drain next _
  have hoffers : (r.pending.toList.flatMap (drainRequests next)).countP (·.isOffer) =
      (r.pending.toList.filterMap (salvage next)).length := by
    rw [← hlines, List.length_filterMap_eq_countP]
    refine List.countP_congr fun a ha => ?_
    rcases of_mem_drain ha with ⟨timer, rfl⟩ | ⟨failure, rfl⟩ | ⟨line, rfl⟩ <;> simp
  rw [hoffers]
  split
  · next hn => rw [hn, h.salvage_passThrough, List.length_append]
  · next hn => rw [salvage_of_ne hn]; rfl

namespace Move

variable {r r' : Relay} {timer : TimerHandle} {input : Input} {actions : List Action}
  {deliveries : Deliveries} {c : Call}

/-- A model line that is to be compared is compared, times out or waits. -/
theorem balance_models (m : Move r timer input r' actions) (h : r.Sound)
    (hc : c = ⟨r, input, { r' with deliveries }⟩) :
    r'.tally.matched + r'.tally.mismatched + r'.tally.timedOut + r'.pending.modelValues.length =
      r.tally.matched + r.tally.mismatched + r.tally.timedOut + r.pending.modelValues.length +
        [c].countP (·.brings .model .splitVerify) := by
  subst hc
  cases m with
  | modemPaired hm hp hn =>
    obtain ⟨hmodels, -, -⟩ := PendingQueue.views_of_cons_ofModel hp
    simp [Call.brings, compared_sum, hmodels]
    omega
  | modelPaired hm hp hn =>
    obtain ⟨hmodels, -, -⟩ := PendingQueue.views_of_cons_ofModem hp
    simp [Call.brings, hm, compared_sum, hmodels]
    omega
  | modelFirst hm hp =>
    simp [Call.brings, hm]
    omega
  | timeout hm hp hl hn =>
    have hperm := PendingQueue.modelValues_eraseP hp (fun e he hid => h.eq_of_id he hp hid) hl
    simp [Call.brings, ← hperm.length_eq]
    omega
  | modeTaken hm hh =>
    simp [Call.brings, enter, abandoned_eq_length]
    omega
  | modelRelayed hm | modelDropped hm => simp [Call.brings, hm, dropLine]
  | _ => simp [Call.brings, dropLine, dropLate]

/-- A modem line that is to be compared is compared, is drained or waits. -/
theorem balance_modems (m : Move r timer input r' actions) (h : r.Sound)
    (hc : c = ⟨r, input, { r' with deliveries }⟩) :
    r'.tally.matched + r'.tally.mismatched + r'.pending.modemValues.length +
        (drainedIn [c]).countP (·.awaitsModel) =
      r.tally.matched + r.tally.mismatched + r.pending.modemValues.length +
        [c].countP (·.brings .modem .splitVerify) := by
  subst hc
  cases m with
  | modemPaired hm hp hn =>
    obtain ⟨-, hmodems, -⟩ := PendingQueue.views_of_cons_ofModel hp
    simp [Call.brings, Call.drained, hm, compared_sum, hmodems]
    omega
  | modelPaired hm hp hn =>
    obtain ⟨-, hmodems, -⟩ := PendingQueue.views_of_cons_ofModem hp
    simp [Call.brings, Call.drained, compared_sum, hmodems]
    omega
  | modemFirst hm hp =>
    simp [Call.brings, Call.drained, hm]
    omega
  | @timeout x model handle rest hm hp hl hn =>
    -- only the model has answered any of them, as it has answered this one
    have hsome : r.pending.modelValues ≠ [] :=
      List.ne_nil_of_mem (List.mem_filterMap.mpr ⟨_, hp, rfl⟩)
    have hnone := h.modemValues_eq_nil hsome
    have hrest : rest.modemValues.Sublist r.pending.modemValues := by
      rw [PendingQueue.modemValues, hl]
      exact List.eraseP_sublist.filterMap _
    rw [hnone, List.sublist_nil] at hrest
    simp [Call.brings, Call.drained, hnone, hrest]
  | modeTaken hm hh => simp [Call.brings, enter, Call.drained, hm, h.countP_awaitsModel]
  | modemLate hm | modemDropped hm | modemRelayed hm =>
    simp [Call.brings, hm, dropLine, dropLate, Call.drained]
  | _ => simp [Call.brings, dropLine, Call.drained]

theorem balance_drained (m : Move r timer input r' actions) (h : r.Sound)
    (hc : c = ⟨r, input, { r' with deliveries }⟩) :
    r'.tally.drained = r.tally.drained +
      ((drainedIn [c]).countP (·.awaitsModem) + (drainedIn [c]).countP (·.awaitsModel)) := by
  subst hc
  cases m with
  | modeTaken hm hh =>
    simp [enter, Call.drained, hm, h.countP_awaitsModel, h.countP_awaitsModem, h.length_toList]
  | _ => simp [Call.drained, dropLine, dropLate]

/-- A timer is stale or lets an exchange time out, which a change of mode does without. -/
theorem balance_timers (m : Move r timer input r' actions) (h : r.Sound)
    (hc : c = ⟨r, input, { r' with deliveries }⟩) :
    r'.tally.staleTimeouts + r'.tally.timedOut = r.tally.staleTimeouts + r.tally.timedOut +
      ([c].countP (·.input.timer?.isSome) + (drainedIn [c]).countP (·.awaitsModem)) := by
  subst hc
  cases m with
  | modeTaken hm hh =>
    simp [enter, Call.drained, hm, h.countP_awaitsModem, abandoned_eq_length]
    omega
  | stale | timeout =>
    simp [Call.drained]
    omega
  | _ => simp [Call.drained, dropLine, dropLate]

/-- Each comparison that fails and each timeout is reported. -/
theorem balance_failures (m : Move r timer input r' actions) :
    r'.tally.mismatched =
        r.tally.mismatched + (actions.filterMap (·.failure?)).countP (!·.isTimeout) ∧
      r'.tally.timedOut =
        r.tally.timedOut + (actions.filterMap (·.failure?)).countP (·.isTimeout) := by
  cases m with
  | modemPaired | modelPaired =>
    refine ⟨mismatched_compared .., ?_⟩
    rw [timedOut_compared]
    exact congrArg (r.tally.timedOut + ·) (timeouts_verdict ..).symm
  | timeout => simp [Action.failure?, Failure.isTimeout]
  | modeTaken =>
    rw [failures_drain]
    simp [enter, abandoned_eq_length, PendingQueue.modelValues, List.countP_map,
      Function.comp_def, Failure.isTimeout]
  | _ => simp [dropLine, dropLate, Action.failure?]

/-- Each line that is handed over is a command, the command's second copy, an answer passed on, or
the answer that ends an exchange. -/
theorem balance_offers (m : Move r timer input r' actions) (h : r.Sound)
    (hc : c = ⟨r, input, { r' with deliveries }⟩) :
    actions.countP (·.isOffer) + (r.tally.matched + r.tally.mismatched + r.tally.timedOut) =
      [c].countP (fun c => (c.input.line? .modemManager).isSome) +
        [c].countP (·.brings .modemManager .splitVerify) +
        [c].countP (·.brings .model .wardModel) +
        [c].countP (fun c => c.brings .modem .passThrough && !c.isLate) +
        (r'.tally.matched + r'.tally.mismatched + r'.tally.timedOut) +
        (drainedInto .passThrough [c]).countP (·.awaitsModel) := by
  rw [drainedInto_singleton]
  subst hc
  cases m with
  | @modeTaken next hm hh =>
    rw [h.offers_drain]
    simp [enter, Call.drained, Call.brings, hm, abandoned_eq_length]
    by_cases hn : next = .passThrough
    · simp [hn, h.countP_awaitsModel]
      omega
    · simp [hn]
      omega
  | modemPaired hm hp hn | modelPaired hm hp hn =>
    rw [Call.drained_of_eq rfl, ite_self, compared_sum, timedOut_compared]
    simp [Call.brings, hm, offers_verdict]
    omega
  | toBoth hm => simp [Call.brings, hm, List.countP_cons, Nat.add_comm]
  | toModel hm | toModem hm | modelRelayed hm | modelDropped hm =>
    simp [Call.brings, Call.drained, hm, Nat.add_comm, dropLine]
  | modemLate hm => simp [Call.brings, Call.drained, Call.isLate, dropLate]
  | modemDropped hm | modemRelayed hm =>
    simp [Call.brings, Call.drained, Call.isLate, hm, dropLine, Nat.add_comm]
  | timeout hm hp hl hn =>
    simp [Call.brings, Call.drained]
    omega
  | _ => simp [Call.brings, Call.drained, *]

end Move

theorem Action.outward_failure? : Action.Outward Action.failure? := ⟨fun _ => rfl, fun _ _ => rfl⟩

theorem countP_isOffer_requests (actions : List Action) :
    (requests actions).countP (·.isOffer) = actions.countP (·.isOffer) := by
  rw [requests, List.countP_filter]
  refine List.countP_congr fun action _ => ?_
  cases action <;> simp [Action.isNote, Action.isOffer]

/-! ## All calls of a run -/

variable {σ : Type} {host : Host σ} {r r' : Relay} {s s' : σ} {input : Input}
  {inputs : List Input} {calls past : List Call} {failures failures' : List Failure}

namespace Balanced

/-- The counters still balance after a move. -/
theorem move (h : Balanced past failures r) (hs : r.Sound) {timer : TimerHandle}
    {actions : List Action} (m : Move r timer input r' actions) {deliveries : Deliveries}
    (hd : deliveries.total = r.deliveries.total + actions.countP (·.isOffer)) {c : Call}
    (hc : c = ⟨r, input, { r' with deliveries }⟩) :
    Balanced (past ++ [c]) (failures ++ actions.filterMap (·.failure?))
      { r' with deliveries } where
  models := by
    rw [List.countP_append, h.models]
    exact (m.balance_models hs hc).symm
  modems := by
    have hstep := m.balance_modems hs hc
    rw [List.countP_append, h.modems, drainedIn_append, List.countP_append]
    simp only
    omega
  drained := by
    have hstep := m.balance_drained hs hc
    rw [drainedIn_append, List.countP_append, List.countP_append]
    simp only
    rw [hstep, h.drained]
    omega
  timers := by
    have hstep := m.balance_timers hs hc
    have hpast := h.timers
    rw [List.countP_append, drainedIn_append, List.countP_append]
    simp only
    omega
  mismatched := by
    rw [List.countP_append, ← h.mismatched]
    exact m.balance_failures.1
  timedOut := by
    rw [List.countP_append, ← h.timedOut]
    exact m.balance_failures.2
  total := by
    have hstep := m.balance_offers hs hc
    have hpast : r.deliveries.total = _ := h.total
    change deliveries.total = _
    simp only [List.countP_append, drainedInto_append]
    omega

/-- **The counters still balance after a call.** -/
theorem handle (h : Balanced past failures r) (hs : r.Sound)
    (hcall : Relay.handle (host.watched Action.failure?) input r (s, failures) =
      .done () (r', (s', failures'))) : Balanced (past ++ [⟨r, input, r'⟩]) failures' r' := by
  obtain ⟨deliveries, hp, rfl⟩ := handle_done hcall
  generalize (host.watched Action.failure?).nextTimer (s, failures) = timer at hp ⊢
  have hd := performAll_total hp
  rw [← countP_isOffer_requests] at hd
  rw [performAll_watched Action.outward_failure? hp, ← Action.outward_failure?.filterMap_requests]
  exact h.move hs (hs.move input) hd rfl

end Balanced

/-- **The counters balance after any number of calls**, in whichever order lines and timers come and
whichever lines are refused. The calls up to any moment are a run of their own, so they balance
between all calls. -/
theorem balanced_handleAll (config : Config) (hasModem : Bool)
    (hrun : handleAll (host.watched Action.failure?) inputs (.new config hasModem) (s, []) =
      .done calls (r, (s', failures))) : Balanced calls failures r :=
  (Sound.new config hasModem).calls_invariant
    (I := fun past r (state : σ × List Failure) => Balanced past state.2 r)
    (fun hs h hcall => h.handle hs hcall) (Balanced.new config hasModem) hrun

/-- Lines, timers and changes of mode among which every counter of the tally moves. -/
def medley : List Input :=
  [.line .modemManager "AT", .line .model "OK", .line .modem "RING", .setMode .splitVerify,
    .line .modemManager "ATI", .line .model "A", .line .modem "A", .line .modem "b",
    .line .model "B", .line .model "C", .timer ⟨2⟩, .timer ⟨2⟩, .line .model "D",
    .setMode .passThrough, .line .modem "d", .line .modem "RING", .setMode .splitVerify,
    .line .modem "e", .setMode .passThrough]

theorem balanced_handleAll_medley :
    ∃ calls r s failures, Journal.watch Action.failure? medley = .done calls (r, (s, failures)) ∧
      Balanced calls failures r ∧ r.tally = ⟨1, 1, 2, 1, 1, 2, 1⟩ ∧
      failures = [.mismatch "b" "B", .timeout "C", .timeout "D"] := by
  have hrun := Outcome.eq_done (o := Journal.watch Action.failure? medley) (by decide +kernel)
  exact ⟨_, _, _, _, hrun, balanced_handleAll _ _ hrun, by decide +kernel, by decide +kernel⟩

end ModemRelay.Relay
