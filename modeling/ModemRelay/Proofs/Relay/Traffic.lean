import ModemRelay.Proofs.Relay.Timers

/-!
# The lines that a step hands over

Outside of the pass-through mode a command is put to the model (`Move.lines_model`), and the client
gets the model's answers, each once (`Move.lines_manager_perm`): an answer is handed over when its
exchange ends. Where exchanges end oldest first, the answers come in their order
(`Move.lines_manager_of_oldest`).
-/

namespace ModemRelay.Relay

/-- The line that comes from an endpoint. -/
def Input.line? (source : Endpoint) : Input → Option String
  | .line e l => if e = source then some l else none
  | _ => none

/-- The mode that is asked for. -/
def Input.mode? : Input → Option Mode
  | .setMode mode => some mode
  | _ => none

/-- The line that is handed to an endpoint. -/
def Action.line? (target : Endpoint) : Action → Option String
  | .send e line => if e = target then some line else none
  | _ => none

/-- The failure that is reported. -/
def Action.failure? : Action → Option Failure
  | .report f => some f
  | _ => none

@[simp] theorem Input.line?_line (e source : Endpoint) (l : String) :
    (Input.line e l).line? source = if e = source then some l else none := rfl

@[simp] theorem Input.line?_timer (source : Endpoint) (x : ExchangeId) :
    (Input.timer x).line? source = none := rfl

@[simp] theorem Input.line?_setMode (source : Endpoint) (m : Mode) :
    (Input.setMode m).line? source = none := rfl

theorem Input.line?_eq_some {input : Input} {source : Endpoint} {l : String} :
    input.line? source = some l ↔ input = .line source l := by
  cases input with
  | line e l' =>
    rw [line?_line]
    split <;> simp_all
  | timer | setMode => simp

@[simp] theorem Action.line?_send (e target : Endpoint) (l : String) :
    (Action.send e l).line? target = if e = target then some l else none := rfl

@[simp] theorem Action.line?_arm (target : Endpoint) (delay : Duration) (x : ExchangeId) :
    (Action.arm delay x).line? target = none := rfl

@[simp] theorem Action.line?_cancel (target : Endpoint) (timer : TimerHandle) :
    (Action.cancel timer).line? target = none := rfl

@[simp] theorem Action.line?_report (target : Endpoint) (f : Failure) :
    (Action.report f).line? target = none := rfl

/-- The answer that the client gets of an exchange that a change to the mode `next` ends. -/
def salvage (next : Mode) (e : Exchange) : Option String :=
  e.modelValue.or (if next = .passThrough then e.modemValue else none)

theorem salvage_of_ne {next : Mode} (h : next ≠ .passThrough) : salvage next = (·.modelValue) := by
  funext e
  simp [salvage, h]

namespace Move

variable {r r' : Relay} {handle timer : TimerHandle} {input : Input} {actions : List Action}
  {target : Endpoint}

theorem mode_eq (m : Move r handle input r' actions) (h : input.mode? = none) :
    r'.mode = r.mode := by
  cases m with
  | modeTaken => cases h
  | _ => rfl

theorem mode_ne_passThrough (m : Move r handle input r' actions) (hm : r.mode ≠ .passThrough)
    (h : input.mode? ≠ some .passThrough) : r'.mode ≠ .passThrough := by
  cases m with
  | modeTaken => exact fun hp => h (congrArg some hp)
  | _ => exact hm

theorem lines_verdict (modem model : String) :
    (verdict modem model).filterMap (·.line? target) =
      if target = .modemManager then [model] else [] := by
  rw [filterMap_verdict fun _ => rfl]
  cases target <;> rfl

/-- A drained exchange hands over the answer that is left of it. -/
theorem lines_drainRequests (next : Mode) (e : Exchange) :
    (drainRequests next e).filterMap (·.line? target) =
      if target = .modemManager then (salvage next e).toList else [] := by
  unfold drainRequests salvage
  cases e.modelValue with
  | none => by_cases hn : next = .passThrough <;> cases e.modemValue <;> cases target <;> simp [hn]
  | some model => cases e.timer <;> cases target <;> rfl

theorem lines_drain (next : Mode) (l : List Exchange) :
    (l.flatMap (drainRequests next)).filterMap (·.line? target) =
      if target = .modemManager then l.filterMap (salvage next) else [] := by
  rw [List.filterMap_flatMap, List.flatMap_congr fun e _ => lines_drainRequests next e]
  split
  · exact (List.filterMap_eq_flatMap_toList ..).symm
  · exact List.flatMap_eq_nil_iff.mpr fun _ _ => rfl

/-- Where the model is not idle, each command is put to it. -/
theorem lines_model (m : Move r handle input r' actions) (hm : r.mode ≠ .passThrough)
    (hn : input.mode? ≠ some .passThrough) :
    actions.filterMap (·.line? .model) = (input.line? .modemManager).toList := by
  cases m with
  | toModem h => exact (hm h).elim
  | modemPaired => exact lines_verdict _ _
  | modelPaired => exact lines_verdict _ _
  | modeTaken => exact lines_drain _ _
  | _ => rfl

/-- While answers are compared, each command is put to the modem too. -/
theorem lines_modem (m : Move r handle input r' actions) (hm : r.mode = .splitVerify)
    (hn : input.mode? = none) :
    actions.filterMap (·.line? .modem) = (input.line? .modemManager).toList := by
  cases m with
  | toModel h => simp [hm] at h
  | modemPaired => exact lines_verdict _ _
  | modelPaired => exact lines_verdict _ _
  | modeTaken => cases hn
  | _ => rfl

/-- While answers are compared, it is for a command alone that a line goes to the modem or the
model. -/
theorem of_send (m : Move r handle input r' actions) (hm : r.mode = .splitVerify)
    (hn : input.mode? = none) {l : String} (hs : .send target l ∈ actions)
    (ht : target ≠ .modemManager) :
    (∃ l', input = .line .modemManager l') ∧ actions.filterMap (·.failure?) = [] := by
  have hlines : actions.filterMap (·.line? target) = (input.line? .modemManager).toList := by
    cases target with
    | modemManager => exact (ht rfl).elim
    | modem => exact m.lines_modem hm hn
    | model => exact m.lines_model (by simp [hm]) (by simp [hn])
  have hmem : l ∈ actions.filterMap (·.line? target) :=
    List.mem_filterMap.mpr ⟨_, hs, if_pos rfl⟩
  rw [hlines, Option.mem_toList, Input.line?_eq_some] at hmem
  subst hmem
  refine ⟨⟨l, rfl⟩, ?_⟩
  cases m <;> rfl

/-- **The client gets the model's answers in order**, where no timer but that of the oldest exchange
takes effect. The answers that it is handed in a step and those that wait after it are those that
waited before it and the one that has come. -/
theorem lines_manager_of_oldest (m : Move r handle input r' actions) (h : r.Sound)
    (hm : r.mode ≠ .passThrough) (hm' : r'.mode ≠ .passThrough)
    (ho : ∀ x ∈ input.timer?, ∀ e ∈ r.pending.toList, e.id = x → e.ModelFirst →
      r.pending.toList.head? = some e) :
    actions.filterMap (·.line? .modemManager) ++ r'.pending.modelValues =
      r.pending.modelValues ++ (input.line? .model).toList := by
  cases m with
  | toModem hr | modemRelayed hr | modelDropped hr => exact (hm hr).elim
  | toModel | toBoth | modemLate | modemDropped | stale | modeRefused | modeKept =>
    exact (List.append_nil _).symm
  | @modemPaired x model timer' line rest hr hp hq =>
    obtain ⟨hmodels, -, -⟩ := PendingQueue.views_of_cons_ofModel hp
    simp [List.filterMap_cons, hmodels, lines_verdict]
  | modemFirst hr hp => simp
  | modelRelayed hr =>
    have hempty : r.pending.modelValues = [] := by
      simp [PendingQueue.modelValues, h.idle (by simp [hr])]
    simp [hempty]
  | @modelPaired x modem line rest hr hp hq =>
    obtain ⟨hmodels, hmodems, -⟩ := PendingQueue.views_of_cons_ofModem hp
    have hempty : r.pending.modelValues = [] := h.modelValues_eq_nil (by simp [hmodems])
    simp [← hmodels, hempty, lines_verdict]
  | modelFirst hr hp => simp
  | @timeout x model timer' rest hr hp hl hq =>
    have hcons := PendingQueue.cons_of_head? (ho x rfl _ hp rfl Exchange.modelFirst_ofModel) hl
    obtain ⟨hmodels, -, -⟩ := PendingQueue.views_of_cons_ofModel hcons
    simp [List.filterMap_cons, hmodels]
  | @modeTaken next hr hh =>
    have hn : next ≠ .passThrough := hm'
    simp [enter, lines_drain, salvage_of_ne hn, PendingQueue.modelValues]

/-- The client gets the model's answers in order while the timers fire in theirs. -/
theorem lines_manager (m : Move r handle input r' actions) (h : r.Sound)
    (hm : r.mode ≠ .passThrough) (hn : input.mode? ≠ some .passThrough)
    {timers : List (TimerHandle × ExchangeId)}
    (ht : r.pending.timers = (input.timer?.map (timer, ·)).toList ++ timers) :
    actions.filterMap (·.line? .modemManager) ++ r'.pending.modelValues =
      r.pending.modelValues ++ (input.line? .model).toList := by
  refine m.lines_manager_of_oldest h hm (m.mode_ne_passThrough hm hn) fun x hx e he hid _ => ?_
  rw [Option.mem_def] at hx
  rw [hx] at ht
  exact h.head?_of_timers ht he hid

/-- **No answer of the model is lost, and none is handed over twice**, whichever timers fire. -/
theorem lines_manager_perm (m : Move r handle input r' actions) (h : r.Sound)
    (hm : r.mode ≠ .passThrough) (hm' : r'.mode ≠ .passThrough) :
    (actions.filterMap (·.line? .modemManager) ++ r'.pending.modelValues).Perm
      (r.pending.modelValues ++ (input.line? .model).toList) := by
  cases ht : input.timer? with
  | none => exact .of_eq (m.lines_manager_of_oldest h hm hm' (by simp [ht]))
  | some x =>
    cases m with
    | stale => exact .of_eq (List.append_nil _).symm
    | timeout hr hp hl hq =>
      rw [Input.line?_timer, Option.toList_none, List.append_nil]
      exact PendingQueue.modelValues_eraseP hp (fun e he hid => h.eq_of_id he hp hid) hl
    | _ => cases ht

/-- An answer of the model that no timer is armed for does not wait, and no other one does. -/
theorem modelValues_of_not_arm {line : String} (m : Move r handle (.line .model line) r' actions)
    (h : r.Sound) (ha : ∀ delay x, .arm delay x ∉ actions) : r'.pending.modelValues = [] := by
  have hidle (hr : r.mode ≠ .splitVerify) : r.pending.modelValues = [] := by
    rw [PendingQueue.modelValues, h.idle hr, List.filterMap_nil]
  cases m with
  | modelRelayed hr => exact hidle (by simp [hr])
  | modelDropped hr => exact hidle (by simp [hr])
  | modelPaired hr hp hq =>
    obtain ⟨hmodels, hmodems, -⟩ := PendingQueue.views_of_cons_ofModem hp
    exact hmodels.symm.trans (h.modelValues_eq_nil (by simp [hmodems]))
  | modelFirst => exact (ha _ _ (List.mem_singleton_self _)).elim

end Move

end ModemRelay.Relay
