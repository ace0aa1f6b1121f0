import ModemRelay.Proofs.Relay.Pending
import ModemRelay.Relay.Step

/-!
# The moves of a relay

`Move` lists what a step of a sound relay can be, one constructor for each way through it, with the
relay it leaves and all it asks for except for notes. `Sound.move` says that each step is one of
them, and `Move.sound` that each of them leaves the relay sound.
-/

namespace ModemRelay.Relay

/-! ## Moves -/

/-- Whether an action only writes to the log. -/
def Action.isNote : Action → Bool
  | .note _ => true
  | _ => false

/-- The actions that do more than write to the log. -/
def requests (actions : List Action) : List Action := actions.filter (!·.isNote)

/-- What is asked for when both answers to a command are there. -/
def verdict (modem model : String) : List Action :=
  (if modem = model then [] else [.report (.mismatch modem model)]) ++ [.send .modemManager model]

/-- The counters once both answers to a command are there. -/
def compared (t : Tally) (modem model : String) : Tally :=
  if modem = model then { t with matched := t.matched + 1 }
  else { t with mismatched := t.mismatched + 1 }

/-- What a change to the mode `next` asks for a pending exchange. -/
def drainRequests (next : Mode) (e : Exchange) : List Action :=
  match e.modelValue with
  | some model =>
    e.timer.toList.map .cancel ++ [.report (.timeout model), .send .modemManager model]
  | none => if next = .passThrough then e.modemValue.toList.map (.send .modemManager) else []

section

variable (t : Tally) (modem model : String)

theorem compared_sum :
    (compared t modem model).matched + (compared t modem model).mismatched =
      t.matched + t.mismatched + 1 := by
  unfold compared
  split
  · exact Nat.add_right_comm ..
  · rfl

@[simp] theorem timedOut_compared : (compared t modem model).timedOut = t.timedOut := by
  unfold compared
  split <;> rfl

@[simp] theorem staleTimeouts_compared :
    (compared t modem model).staleTimeouts = t.staleTimeouts := by
  unfold compared
  split <;> rfl

@[simp] theorem drained_compared : (compared t modem model).drained = t.drained := by
  unfold compared
  split <;> rfl

@[simp] theorem lateModemLines_compared :
    (compared t modem model).lateModemLines = t.lateModemLines := by
  unfold compared
  split <;> rfl

end

@[simp] theorem mem_verdict {a : Action} {modem model : String} :
    a ∈ verdict modem model ↔
      modem ≠ model ∧ a = .report (.mismatch modem model) ∨ a = .send .modemManager model := by
  unfold verdict
  split <;> simp [*]

/-- A view that sees no failures sees the line of a verdict alone. -/
theorem filterMap_verdict {view : Action → Option β} (hv : ∀ f, view (.report f) = none)
    (modem model : String) :
    (verdict modem model).filterMap view = (view (.send .modemManager model)).toList := by
  unfold verdict
  split <;> simp [hv, List.filterMap_cons] <;> cases view (.send .modemManager model) <;> rfl

theorem of_mem_drainRequests {a : Action} {next : Mode} {e : Exchange}
    (h : a ∈ drainRequests next e) :
    (∃ timer, a = .cancel timer) ∨ (∃ failure, a = .report failure) ∨
      ∃ line, a = .send .modemManager line := by
  unfold drainRequests at h
  cases hv : e.modelValue with
  | some model =>
    simp only [hv, List.mem_append, List.mem_map, List.mem_cons, List.not_mem_nil, or_false] at h
    rcases h with ⟨timer, -, rfl⟩ | rfl | rfl
    · exact .inl ⟨timer, rfl⟩
    · exact .inr (.inl ⟨_, rfl⟩)
    · exact .inr (.inr ⟨model, rfl⟩)
  | none =>
    simp only [hv] at h
    split at h
    · obtain ⟨line, -, rfl⟩ := List.mem_map.mp h
      exact .inr (.inr ⟨line, rfl⟩)
    · cases h

theorem of_mem_drain {a : Action} {next : Mode} {l : List Exchange}
    (h : a ∈ l.flatMap (drainRequests next)) :
    (∃ timer, a = .cancel timer) ∨ (∃ failure, a = .report failure) ∨
      ∃ line, a = .send .modemManager line := by
  obtain ⟨e, -, he⟩ := List.mem_flatMap.mp h
  exact of_mem_drainRequests he

/-- How many pending exchanges the model has answered. -/
def abandoned (r : Relay) : Nat := r.pending.toList.countP (·.modelValue.isSome)

theorem abandoned_eq_length (r : Relay) : r.abandoned = r.pending.modelValues.length := by
  rw [abandoned, PendingQueue.modelValues, List.length_filterMap_eq_countP]

/-- The relay after a change to a mode that it can take. -/
def enter (r : Relay) (next : Mode) : Relay :=
  { r with
    mode := next
    pending := r.pending.clear
    owedModemLines := if next = .splitVerify then 0 else r.owedModemLines + r.abandoned
    tally := { r.tally with
      drained := r.tally.drained + r.pending.toList.length
      timedOut := r.tally.timedOut + r.abandoned } }

/-- The ways through a step: what happens to the relay, the relay after it, and what it asks for.
An exchange that it opens with the model's answer is guarded by the timer `handle`. -/
inductive Move (r : Relay) (handle : TimerHandle) : Input → Relay → List Action → Prop
  | toModel (hm : r.mode = .wardModel) :
    Move r handle (.line .modemManager line) r [.send .model line]
  | toModem (hm : r.mode = .passThrough) :
    Move r handle (.line .modemManager line) r [.send .modem line]
  | toBoth (hm : r.mode = .splitVerify) :
    Move r handle (.line .modemManager line) r [.send .modem line, .send .model line]
  | modemLate (hm : r.mode ≠ .splitVerify) (ho : 0 < r.owedModemLines) :
    Move r handle (.line .modem line) (r.dropLate line).1 []
  | modemDropped (hm : r.mode = .wardModel) (ho : r.owedModemLines = 0) :
    Move r handle (.line .modem line) (r.dropLine .modem line).1 []
  | modemRelayed (hm : r.mode = .passThrough) (ho : r.owedModemLines = 0) :
    Move r handle (.line .modem line) r [.send .modemManager line]
  | modemPaired (hm : r.mode = .splitVerify)
    (hp : r.pending.toList = Exchange.ofModel x model timer :: rest.toList)
    (hn : rest.nextId = r.pending.nextId) :
    Move r handle (.line .modem line)
      { r with pending := rest, tally := compared r.tally line model }
      (.cancel timer :: verdict line model)
  | modemFirst (hm : r.mode = .splitVerify) (hp : ∀ e ∈ r.pending.toList, e.ModemFirst) :
    Move r handle (.line .modem line) { r with pending := r.pending.pushModem line } []
  | modelRelayed (hm : r.mode = .wardModel) :
    Move r handle (.line .model line) r [.send .modemManager line]
  | modelDropped (hm : r.mode = .passThrough) :
    Move r handle (.line .model line) (r.dropLine .model line).1 []
  | modelPaired (hm : r.mode = .splitVerify)
    (hp : r.pending.toList = Exchange.ofModem x modem :: rest.toList)
    (hn : rest.nextId = r.pending.nextId) :
    Move r handle (.line .model line)
      { r with pending := rest, tally := compared r.tally modem line } (verdict modem line)
  | modelFirst (hm : r.mode = .splitVerify) (hp : ∀ e ∈ r.pending.toList, e.ModelFirst) :
    Move r handle (.line .model line) { r with pending := r.pending.pushModel line handle }
      [.arm r.config.responseTimeout r.pending.nextId]
  | timeout (hm : r.mode = .splitVerify) (hp : Exchange.ofModel x model timer ∈ r.pending.toList)
    (hl : rest.toList = r.pending.toList.eraseP (·.id == x))
    (hn : rest.nextId = r.pending.nextId) :
    Move r handle (.timer x)
      { r with pending := rest, tally.timedOut := r.tally.timedOut + 1 }
      [.report (.timeout model), .send .modemManager model]
  | stale (hp : ∀ e ∈ r.pending.toList, e.id = x → ¬e.ModelFirst) :
    Move r handle (.timer x) { r with tally.staleTimeouts := r.tally.staleTimeouts + 1 } []
  | modeRefused (hr : next.requiresModem = true) (hh : r.hasModem = false) :
    Move r handle (.setMode next) r []
  | modeKept : Move r handle (.setMode r.mode) r []
  | modeTaken (hm : next ≠ r.mode) (hh : next ≠ .wardModel → r.hasModem = true) :
    Move r handle (.setMode next) (r.enter next)
      (r.pending.toList.flatMap (drainRequests next))

/-! ## Each step is a move -/

theorem filterMap_cons_toList (f : α → Option β) (a : α) (l : List α) :
    (a :: l).filterMap f = (f a).toList ++ l.filterMap f := by
  rw [List.filterMap_cons]
  cases f a <;> rfl

@[simp] theorem requests_nil : requests [] = [] := rfl

@[simp] theorem requests_note : requests (.note n :: actions) = requests actions := rfl

@[simp] theorem requests_append (as bs : List Action) :
    requests (as ++ bs) = requests as ++ requests bs := by simp [requests]

@[simp] theorem requests_offer (target : Endpoint) (line : String) :
    requests (offer target line) = [.send target line] := rfl

theorem requests_complete (r : Relay) (modem model : String) :
    requests (r.complete modem model).2 = verdict modem model := by
  unfold complete verdict
  split <;> rfl

theorem complete_fst (r : Relay) (modem model : String) :
    (r.complete modem model).1 = { r with tally := compared r.tally modem model } := by
  unfold complete compared
  split <;> rfl

theorem requests_callOff (timer : Option TimerHandle) :
    requests (callOff timer) = timer.toList.map .cancel := by
  cases timer <;> rfl

theorem requests_drainActions (next : Mode) (e : Exchange) :
    requests (drainActions next e) = drainRequests next e := by
  unfold drainActions drainRequests
  cases e.modelValue with
  | some model => cases e.timer <;> rfl
  | none => cases e.modemValue <;> cases next <;> rfl

theorem requests_flatMap (f : α → List Action) (l : List α) :
    requests (l.flatMap f) = l.flatMap fun a => requests (f a) := by
  simp [requests, List.filter_flatMap]

theorem drain_fst (r : Relay) (next : Mode) :
    (r.drain next).1 =
      { r with
        pending := r.pending.clear
        owedModemLines := r.owedModemLines + r.abandoned
        tally := { r.tally with
          drained := r.tally.drained + r.pending.toList.length
          timedOut := r.tally.timedOut + r.abandoned } } := by
  by_cases hp : r.pending.toList = []
  · simp [drain, hp, abandoned, PendingQueue.clear_of_toList_eq_nil hp]
  · simp [drain, hp, abandoned]

theorem requests_drain (r : Relay) (next : Mode) :
    requests (r.drain next).2 = r.pending.toList.flatMap (drainRequests next) := by
  by_cases hp : r.pending.toList = []
  · simp [drain, hp]
  · simp [drain, hp, requests_flatMap, requests_drainActions]

section

variable {r : Relay} {handle : TimerHandle} {line : String}

theorem move_pairModem (ho : r.pending.OneSided) (hm : r.mode = .splitVerify) :
    Move r handle (.line .modem line) (r.pairModemLine line).1
      (requests (r.pairModemLine line).2) := by
  unfold pairModemLine
  cases hp : r.pending.popAwaitingModem with
  | none =>
    refine .modemFirst hm ?_
    have hhead := PendingQueue.popAwaitingModem_eq_none hp
    rcases ho with hs | hs
    · cases hl : r.pending.toList with
      | nil => simp
      | cons e rest =>
        obtain ⟨x, model, timer, rfl⟩ := hs e (by simp [hl])
        simp [hl] at hhead
    · exact hs
  | some found =>
    obtain ⟨e, rest⟩ := found
    obtain ⟨he, hl, hn⟩ := PendingQueue.popAwaitingModem_eq_some hp
    rcases ho with hs | hs
    · obtain ⟨x, model, timer, rfl⟩ := hs e (by simp [hl])
      have : Move r handle (.line .modem line) _ _ := .modemPaired hm hl hn
      simpa [Exchange.ofModel, complete_fst, requests_complete, requests_callOff] using this
    · obtain ⟨x, modem, rfl⟩ := hs e (by simp [hl])
      simp at he

theorem move_pairModel (ho : r.pending.OneSided) (hm : r.mode = .splitVerify) :
    Move r handle (.line .model line) (r.pairModelLine handle line).1
      (requests (r.pairModelLine handle line).2) := by
  unfold pairModelLine
  cases hp : r.pending.popAwaitingModel with
  | none =>
    refine .modelFirst hm ?_
    have hhead := PendingQueue.popAwaitingModel_eq_none hp
    rcases ho with hs | hs
    · exact hs
    · cases hl : r.pending.toList with
      | nil => simp
      | cons e rest =>
        obtain ⟨x, modem, rfl⟩ := hs e (by simp [hl])
        simp [hl] at hhead
  | some found =>
    obtain ⟨e, rest⟩ := found
    obtain ⟨he, hl, hn⟩ := PendingQueue.popAwaitingModel_eq_some hp
    rcases ho with hs | hs
    · obtain ⟨x, model, timer, rfl⟩ := hs e (by simp [hl])
      simp at he
    · obtain ⟨x, modem, rfl⟩ := hs e (by simp [hl])
      have : Move r handle (.line .model line) _ _ := .modelPaired hm hl hn
      simpa [Exchange.ofModem, complete_fst, requests_complete] using this

end

namespace Sound

variable {r : Relay} {handle : TimerHandle} {line : String}

private theorem move_manager (h : r.Sound) :
    Move r handle (.line .modemManager line) r (requests (r.onManagerLine line)) := by
  have hm := h.attached
  unfold onManagerLine offerToModem
  cases hr : r.mode with
  | wardModel => exact .toModel hr
  | passThrough => simpa [hr, hm] using .toModem hr
  | splitVerify => simpa [hr, hm] using .toBoth hr

private theorem move_timer (h : r.Sound) (x : ExchangeId) :
    Move r handle (.timer x) (r.onTimer x).1 (requests (r.onTimer x).2) := by
  unfold onTimer
  cases hr : r.pending.remove x with
  | none =>
    refine .stale fun e he hx _ => ?_
    have hget : r.pending.get? x = none := by simpa [PendingQueue.remove] using hr
    rw [PendingQueue.get?_eq, List.find?_eq_none] at hget
    exact hget e he (by simp [hx])
  | some found =>
    obtain ⟨e, rest⟩ := found
    obtain ⟨hget, hl, hn⟩ := PendingQueue.remove_eq_some hr
    rw [PendingQueue.get?_eq] at hget
    have he := List.mem_of_find?_eq_some hget
    have hx : e.id = x := by simpa using List.find?_some hget
    have hm : r.mode = .splitVerify := Decidable.byContradiction fun hm => by
      simp [h.idle hm] at he
    rcases h.oneSided with hs | hs
    · obtain ⟨y, model, timer, rfl⟩ := hs e he
      cases hx
      exact .timeout hm he hl hn
    · obtain ⟨y, modem, rfl⟩ := hs e he
      refine .stale fun e' he' _ hf => ?_
      obtain ⟨y', modem', rfl⟩ := hs e' he'
      simp at hf

private theorem move_mode (next : Mode) :
    Move r handle (.setMode next) (r.changeMode next).1 (requests (r.changeMode next).2) := by
  unfold changeMode
  split
  · next hr =>
    simp only [Bool.and_eq_true, Bool.not_eq_true'] at hr
    exact .modeRefused hr.1 hr.2
  · next hr =>
    split
    · next hm => exact hm ▸ .modeKept
    · next hm =>
      have hh : next ≠ .wardModel → r.hasModem = true := by
        cases next <;> simp_all [Mode.requiresModem]
      have : Move r handle (.setMode next) _ _ := .modeTaken hm hh
      simpa [drain_fst, requests_drain, enter] using this

/-- **Each step of a sound relay is a move.** -/
theorem move (h : r.Sound) (input : Input) :
    Move r handle input (r.step handle input).1 (requests (r.step handle input).2) := by
  cases input with
  | line source line =>
    cases source with
    | modemManager => exact h.move_manager
    | modem =>
      cases hm : r.mode with
      | splitVerify => simpa [step, onModemLine, hm] using move_pairModem h.oneSided hm
      | wardModel =>
        by_cases ho : 0 < r.owedModemLines
        · simpa [step, onModemLine, hm, ho] using .modemLate (by simp [hm]) ho
        · simpa [step, onModemLine, hm, ho] using .modemDropped hm (by omega)
      | passThrough =>
        by_cases ho : 0 < r.owedModemLines
        · simpa [step, onModemLine, hm, ho] using .modemLate (by simp [hm]) ho
        · simpa [step, onModemLine, hm, ho] using .modemRelayed hm (by omega)
    | model =>
      cases hm : r.mode with
      | wardModel => simpa [step, onModelLine, hm] using .modelRelayed hm
      | passThrough => simpa [step, onModelLine, hm] using .modelDropped hm
      | splitVerify => simpa [step, onModelLine, hm] using move_pairModel h.oneSided hm
  | timer x => exact h.move_timer x
  | setMode next => exact move_mode next

/-! ## Moves keep a relay sound -/

/-- Exchanges may leave from anywhere. -/
theorem shrink (h : r.Sound) {rest : PendingQueue} (hs : rest.toList.Sublist r.pending.toList)
    (hn : rest.nextId = r.pending.nextId) (tally : Tally) :
    Sound { r with pending := rest, tally } where
  oneSided := h.oneSided.imp (fun hf e he => hf e (hs.subset he)) fun hf e he =>
    hf e (hs.subset he)
  ascending := h.ascending.sublist hs
  fresh e he := by rw [hn]; exact h.fresh e (hs.subset he)
  idle hm := by
    have := hs
    rw [h.idle hm, List.sublist_nil] at this
    exact this
  settled := h.settled
  attached := h.attached

/-- An exchange of the kind of the others may join at the end. -/
theorem grow (h : r.Sound) (hm : r.mode = .splitVerify) {q : PendingQueue} {e : Exchange}
    (hq : q.toList = r.pending.toList ++ [e]) (hid : e.id = r.pending.nextId)
    (hn : q.nextId.val = r.pending.nextId.val + 1)
    (hs : (∀ e ∈ q.toList, e.ModelFirst) ∨ ∀ e ∈ q.toList, e.ModemFirst) :
    Sound { r with pending := q } where
  oneSided := hs
  ascending := by
    simp only [hq, List.pairwise_append, List.pairwise_singleton, List.mem_singleton]
    refine ⟨h.ascending, trivial, fun a ha b hb => ?_⟩
    rw [hb, hid]
    exact h.fresh a ha
  fresh a ha := by
    simp only [hq, List.mem_append, List.mem_singleton] at ha
    rw [hn]
    rcases ha with ha | rfl
    · exact Nat.lt_succ_of_lt (h.fresh a ha)
    · rw [hid]
      exact Nat.lt_succ_self _
  idle hm' := (hm' hm).elim
  settled := h.settled
  attached := h.attached

end Sound

theorem enter_sound {r : Relay} {next : Mode} (hh : next ≠ .wardModel → r.hasModem = true) :
    (r.enter next).Sound where
  oneSided := .inl (by simp [enter])
  ascending := by simp [enter]
  fresh := by simp [enter]
  idle _ := by simp [enter]
  settled hm := if_pos hm
  attached := hh

theorem Move.sound {r r' : Relay} (m : Move r handle input r' actions) (h : r.Sound) :
    r'.Sound := by
  cases m with
  | toModel | toModem | toBoth | modemRelayed | modelRelayed | modeRefused | modeKept => exact h
  | modemLate hm =>
    exact ⟨h.oneSided, h.ascending, h.fresh, h.idle, fun hm' => (hm hm').elim, h.attached⟩
  | modemDropped | modelDropped | stale =>
    exact ⟨h.oneSided, h.ascending, h.fresh, h.idle, h.settled, h.attached⟩
  | modemPaired hm hp hn | modelPaired hm hp hn =>
    exact h.shrink (hp ▸ List.sublist_cons_self ..) hn _
  | modemFirst hm hp =>
    refine h.grow hm (PendingQueue.toList_pushModem ..) rfl rfl (.inr ?_)
    simpa [or_imp, forall_and] using hp
  | modelFirst hm hp =>
    refine h.grow hm (PendingQueue.toList_pushModel ..) rfl rfl (.inl ?_)
    simpa [or_imp, forall_and] using hp
  | timeout hm hp hl hn => exact h.shrink (hl ▸ List.eraseP_sublist) hn _
  | modeTaken hm hh => exact enter_sound hh

theorem Move.undeliverable_not_mem {r r' : Relay} (m : Move r handle input r' actions)
    (line : String) (mode : Mode) : .undeliverable line mode ∉ actions := by
  intro hu
  cases m with
  | modeTaken => rcases of_mem_drain hu with ⟨_, h⟩ | ⟨_, h⟩ | ⟨_, h⟩ <;> cases h
  | _ => simp at hu

/-- No line for the modem is refused for want of one. -/
theorem Sound.deliverable {r : Relay} (h : r.Sound) (handle : TimerHandle) (input : Input)
    (line : String) (mode : Mode) : .undeliverable line mode ∉ (r.step handle input).2 := by
  intro hu
  have hmove : Move r handle input _ _ := h.move input
  exact hmove.undeliverable_not_mem line mode (List.mem_filter.mpr ⟨hu, rfl⟩)

/-- The numbers of exchanges go on from where they were. -/
theorem Move.nextId_le {r r' : Relay} (m : Move r handle input r' actions) :
    r.pending.nextId.val ≤ r'.pending.nextId.val := by
  cases m with
  | modemPaired hm hp hn | modelPaired hm hp hn => exact Nat.le_of_eq (congrArg _ hn.symm)
  | timeout hm hp hl hn => exact Nat.le_of_eq (congrArg _ hn.symm)
  | modemFirst | modelFirst => exact Nat.le_succ _
  | _ => exact Nat.le_refl _

/-- A step keeps a relay sound. -/
theorem Sound.step {r : Relay} (h : r.Sound) (handle : TimerHandle) (input : Input) :
    (r.step handle input).1.Sound :=
  (h.move input).sound h

/-- Neither does a step that is stopped half way make it unsound. -/
theorem Sound.halted {r r' : Relay} (h : r.Sound) (m : Move r handle input r' actions)
    (deliveries : Deliveries) : (r.halted r' deliveries).Sound :=
  ⟨h.oneSided, h.ascending, fun e he => Nat.lt_of_lt_of_le (h.fresh e he) m.nextId_le, h.idle,
    h.settled, h.attached⟩

end ModemRelay.Relay
