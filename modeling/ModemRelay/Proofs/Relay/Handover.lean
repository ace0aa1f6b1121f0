import Mathlib.Data.List.Basic
import ModemRelay.Proofs.Relay.Traffic

/-!
# From comparing answers to passing them through

While answers are compared, each answer that the client gets uses up one of the modem's, unless its
exchange has timed out (`Move.used_modem`). When the pass-through mode is entered, the client gets
what waits, whichever side it is from (`Move.lines_handover`), and from then on the modem's answers,
except those that it owes (`Move.lines_passThrough`).
-/

namespace ModemRelay.Relay

/-- A change to the pass-through mode hands over all that waits. -/
theorem Sound.salvage_passThrough {r : Relay} (h : r.Sound) :
    r.pending.toList.filterMap (salvage .passThrough) =
      r.pending.modelValues ++ r.pending.modemValues := by
  rcases h.oneSided with hs | hs
  · rw [PendingQueue.modemValues_of_modelFirst hs, List.append_nil]
    refine List.filterMap_congr fun e he => ?_
    obtain ⟨x, model, timer, rfl⟩ := hs e he
    rfl
  · rw [PendingQueue.modelValues_of_modemFirst hs, List.nil_append]
    refine List.filterMap_congr fun e he => ?_
    obtain ⟨x, modem, rfl⟩ := hs e he
    rfl

namespace Move

variable {r r' : Relay} {handle timer : TimerHandle} {input : Input} {actions : List Action}

/-- **An answer to the client uses up one of the modem's, or a timer has fired for it.** -/
theorem used_modem (m : Move r handle input r' actions) (h : r.Sound) (hm : r.mode = .splitVerify)
    (hn : input.mode? = none) {timers : List (TimerHandle × ExchangeId)}
    (ht : r.pending.timers = (input.timer?.map (timer, ·)).toList ++ timers) :
    ∃ used, r.pending.modemValues ++ (input.line? .modem).toList =
        used ++ r'.pending.modemValues ∧
      used.length + input.timer?.toList.length =
        (actions.filterMap (·.line? .modemManager)).length := by
  cases m with
  | toModel hr | toModem hr | modemDropped hr | modemRelayed hr | modelRelayed hr
  | modelDropped hr => simp [hm] at hr
  | modemLate hr => exact (hr hm).elim
  | toBoth => exact ⟨[], List.append_nil _, rfl⟩
  | @modemPaired x model timer' line rest hr hp hq =>
    obtain ⟨hmodels, hmodems, -⟩ := PendingQueue.views_of_cons_ofModel hp
    have hempty : r.pending.modemValues = [] := h.modemValues_eq_nil (by simp [hmodels])
    refine ⟨[line], ?_, by simp [List.filterMap_cons, lines_verdict]⟩
    simp [← hmodems, hempty]
  | modemFirst => exact ⟨[], by simp, rfl⟩
  | @modelPaired x modem line rest hr hp hq =>
    obtain ⟨-, hmodems, -⟩ := PendingQueue.views_of_cons_ofModem hp
    refine ⟨[modem], ?_, by simp [lines_verdict]⟩
    simp [hmodems]
  | modelFirst => exact ⟨[], by simp, rfl⟩
  | timeout hr hp hl hq =>
    obtain ⟨-, hmodems, -⟩ := PendingQueue.views_of_cons_ofModel (h.cons_of_expired ht hp hl)
    refine ⟨[], ?_, rfl⟩
    simp [hmodems]
  | stale hp =>
    -- the timer that fires is that of the oldest exchange, which the model has answered
    obtain ⟨model, rest, hl⟩ := h.head_of_timers ht
    exact (hp _ (hl ▸ List.mem_cons_self) rfl Exchange.modelFirst_ofModel).elim
  | modeRefused | modeKept | modeTaken => cases hn

/-- **When the pass-through mode is entered the client gets all that waits**, nothing else is said
to anyone, and the modem owes an answer to each exchange that waited for it. -/
theorem lines_handover (m : Move r handle input r' actions) (h : r.Sound)
    (hm : r.mode = .splitVerify) (hi : input = .setMode .passThrough) :
    r'.mode = .passThrough ∧ r'.owedModemLines = r.pending.modelValues.length ∧
      ∀ target, actions.filterMap (·.line? target) =
        if target = .modemManager then r.pending.modelValues ++ r.pending.modemValues else [] := by
  cases m with
  | modeRefused hr hh => simp [h.attached (by simp [hm])] at hh
  | modeKept => cases hm.symm.trans (Input.setMode.inj hi)
  | modeTaken hne hh =>
    cases hi
    refine ⟨rfl, ?_, fun target => ?_⟩
    · rw [enter, if_neg (by decide), h.settled hm, Nat.zero_add, abandoned_eq_length]
    · rw [lines_drain, h.salvage_passThrough]
  | _ => cases hi

/-- In the pass-through mode each command is put to the modem. -/
theorem lines_modem_passThrough (m : Move r handle input r' actions) (hm : r.mode = .passThrough)
    (hn : ∀ mode ∈ input.mode?, mode = .passThrough) :
    actions.filterMap (·.line? .modem) = (input.line? .modemManager).toList := by
  cases m with
  | toModel hr | toBoth hr | modemPaired hr | modelPaired hr => simp [hm] at hr
  | modeTaken hne => exact (hne ((hn _ rfl).trans hm.symm)).elim
  | _ => rfl

/-- **In the pass-through mode the client gets the modem's answers**, once those that the modem owes
have come. -/
theorem lines_passThrough (m : Move r handle input r' actions) (hm : r.mode = .passThrough)
    (hn : ∀ mode ∈ input.mode?, mode = .passThrough) :
    r'.mode = .passThrough ∧
      actions.filterMap (·.line? .modemManager) =
        (input.line? .modem).toList.drop r.owedModemLines ∧
      r'.owedModemLines = r.owedModemLines - (input.line? .modem).toList.length := by
  cases m with
  | toModel hr | toBoth hr | modemDropped hr | modemPaired hr | modemFirst hr | modelRelayed hr
  | modelPaired hr | modelFirst hr | timeout hr => simp [hm] at hr
  | toModem | modelDropped | stale | modeRefused | modeKept =>
    exact ⟨hm, (List.drop_nil).symm, rfl⟩
  | @modemLate line hr ho =>
    refine ⟨hm, ?_, rfl⟩
    exact (List.drop_eq_nil_of_le ho).symm
  | modemRelayed hr ho =>
    rw [ho]
    exact ⟨hm, rfl, by simp⟩
  | modeTaken hne => exact (hne ((hn _ rfl).trans hm.symm)).elim

end Move

end ModemRelay.Relay
