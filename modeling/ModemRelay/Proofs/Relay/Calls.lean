import ModemRelay.Proofs.Relay.Traffic
import ModemRelay.Proofs.Relay.Watching
import ModemRelay.Relay.Journal

/-!
# A relay over all its calls

A relay takes one input after the other among surroundings that take lines or refuse them as they
like (`handleAll`). What each step keeps holds after all of them (`handleAll_invariant`), and so the
pending exchanges are always in order (`coherent_handleAll_new`). Of the model's answers none is
lost and none is handed over twice: at every moment those that have come are those that the client
has been offered and those that wait (`received_perm_offered_append`).
-/

namespace ModemRelay.Relay

variable {σ : Type} {host : Host σ} {r r' : Relay} {s s' : σ} {input : Input}
  {inputs : List Input} {target : Endpoint}

/-- A call of a relay: the relay before it, its input, and the relay after it. -/
structure Call where
  before : Relay
  input : Input
  after : Relay

/-- The relay takes inputs in order, up to one that the surroundings stop at. -/
def handleAll (host : Host σ) : List Input → Relay → σ → Outcome (Relay × σ) (List Call)
  | [], r, s => .done [] (r, s)
  | input :: rest, r, s =>
    (handle host input r s).andThen fun () (r', s') =>
      (handleAll host rest r' s').map (⟨r, input, r'⟩ :: ·)

theorem handleAll_cons_done {calls : List Call} {state : Relay × σ}
    (h : handleAll host (input :: inputs) r s = .done calls state) :
    ∃ r₁ s₁ rest, handle host input r s = .done () (r₁, s₁) ∧
      handleAll host inputs r₁ s₁ = .done rest state ∧ calls = ⟨r, input, r₁⟩ :: rest := by
  obtain ⟨_, ⟨r₁, s₁⟩, hcall, hlater⟩ := Outcome.andThen_eq_done.mp h
  obtain ⟨rest, hrest, rfl⟩ := Outcome.map_eq_done.mp hlater
  exact ⟨r₁, s₁, rest, hcall, hrest, rfl⟩

theorem handleAll_cons_of_done {calls : List Call} {state : Relay × σ}
    (hcall : handle host input r s = .done () (r', s'))
    (hrest : handleAll host inputs r' s' = .done calls state) :
    handleAll host (input :: inputs) r s = .done (⟨r, input, r'⟩ :: calls) state :=
  Outcome.andThen_eq_done.mpr ⟨(), _, hcall, Outcome.map_eq_done.mpr ⟨calls, hrest, rfl⟩⟩

/-- **What each step keeps holds after any number of calls**, also where the surroundings stop. -/
theorem handleAll_invariant {I : Relay → Prop}
    (hstep : ∀ {r} timer input, I r → I (r.step timer input).1)
    (hhalted : ∀ {r : Relay} timer input deliveries, I r →
      I (r.halted (r.step timer input).1 deliveries))
    (hdeliver : ∀ {r : Relay} deliveries, I r → I { r with deliveries }) (h : I r) :
    I (handleAll host inputs r s).state.1 := by
  induction inputs generalizing r s with
  | nil => exact h
  | cons input rest ih =>
    rw [handleAll]
    cases hcall : handle host input r s with
    | done _ state =>
      obtain ⟨deliveries, -, hr⟩ := handle_done hcall
      have hnext : I state.1 := hr ▸ hdeliver _ (hstep _ _ h)
      rw [Outcome.andThen, Outcome.state_map]
      exact ih hnext
    | overflow state =>
      obtain ⟨deliveries, -, hr⟩ := handle_overflow hcall
      exact hr ▸ hhalted _ _ deliveries h

/-- **A run is matched by another where each call is.** The relays and their surroundings are
related by `R` before and after, the inputs by what `key` tells of them, and `P` holds of the relays
on the way. -/
theorem handleAll_matched {σ' α β : Type} {host' : Host σ'} {R : Relay → σ → Relay → σ' → Prop}
    {P : Relay → Prop} {key : Input → α} {view : Relay → β}
    (hcall : ∀ {r r₁ r' input input' s s₁ s'}, R r s r' s' → key input = key input' →
      handle host input r s = .done () (r₁, s₁) → P r₁ →
      ∃ r₁' s₁', handle host' input' r' s' = .done () (r₁', s₁') ∧ R r₁ s₁ r₁' s₁')
    (hview : ∀ {r r' s s'}, R r s r' s' → view r = view r') {r₀ r₁ : Relay} {s₀ : σ'} {s₁ : σ}
    {inputs' : List Input} {calls : List Call} (hR : R r s r₀ s₀)
    (hkey : inputs.map key = inputs'.map key)
    (hrun : handleAll host inputs r s = .done calls (r₁, s₁)) (hP : ∀ c ∈ calls, P c.after) :
    ∃ calls' r₁' s₁', handleAll host' inputs' r₀ s₀ = .done calls' (r₁', s₁') ∧
      R r₁ s₁ r₁' s₁' ∧ calls.map (view ·.after) = calls'.map (view ·.after) := by
  induction inputs generalizing inputs' r s r₀ s₀ calls with
  | nil =>
    cases hrun
    rw [List.map_nil, eq_comm, List.map_eq_nil_iff] at hkey
    exact ⟨[], r₀, s₀, hkey ▸ rfl, hR, rfl⟩
  | cons input rest ih =>
    obtain ⟨r₂, s₂, later, hfirst, hrest, rfl⟩ := handleAll_cons_done hrun
    rw [List.map_cons, eq_comm, List.map_eq_cons_iff] at hkey
    obtain ⟨input', rest', rfl, hinput, hlater⟩ := hkey
    rw [List.forall_mem_cons] at hP
    obtain ⟨r₂', s₂', hfirst', hR₂⟩ := hcall hR hinput.symm hfirst hP.1
    obtain ⟨calls', r₁', s₁', hrest', hR₁, heq⟩ := ih hR₂ hlater.symm hrest hP.2
    refine ⟨_, r₁', s₁', handleAll_cons_of_done hfirst' hrest', hR₁, ?_⟩
    rw [List.map_cons, List.map_cons, heq, hview hR₂]

/-- A call of a sound relay is a move, but for the lines counted. -/
theorem Sound.move_handle (h : r.Sound) (hcall : handle host input r s = .done () (r', s')) :
    ∃ timer r₁ actions deliveries, Move r timer input r₁ actions ∧ r' = { r₁ with deliveries } := by
  obtain ⟨deliveries, -, hr⟩ := handle_done hcall
  exact ⟨_, _, _, deliveries, h.move input, hr⟩

/-- **What each call of a sound relay keeps of the calls so far holds after all of them.** -/
theorem Sound.calls_invariant {I : List Call → Relay → σ → Prop} (h : r.Sound)
    (hcall : ∀ {past r input r' s s'}, r.Sound → I past r s →
      handle host input r s = .done () (r', s') → I (past ++ [⟨r, input, r'⟩]) r' s')
    {calls : List Call} (hI : I [] r s)
    (hrun : handleAll host inputs r s = .done calls (r', s')) : I calls r' s' := by
  suffices hpast : ∀ past, I past r s → I (past ++ calls) r' s' from hpast [] hI
  clear hI
  induction inputs generalizing r s calls with
  | nil =>
    cases hrun
    intro past hI
    rwa [List.append_nil]
  | cons input rest ih =>
    intro past hI
    obtain ⟨r₁, s₁, later, hfirst, hrest, rfl⟩ := handleAll_cons_done hrun
    obtain ⟨timer, r₂, actions, deliveries, hmove, hr⟩ := h.move_handle hfirst
    rw [← List.singleton_append, ← List.append_assoc]
    exact ih (hr ▸ (hmove.sound h).deliver deliveries) hrest _ (hcall h hI hfirst)

/-- A relay stays sound over all its calls. -/
theorem sound_handleAll {calls : List Call} (h : r.Sound)
    (hrun : handleAll host inputs r s = .done calls (r', s')) : r'.Sound := by
  have hstate : (handleAll host inputs r s).state.1.Sound :=
    handleAll_invariant (fun timer input h => h.step timer input)
      (fun timer input deliveries h => h.halted (h.move input) deliveries)
      (fun deliveries h => h.deliver deliveries) h
  rwa [hrun] at hstate

/-- Where nothing but notes is asked for, no line is counted. -/
theorem deliveries_of_requests_nil {actions : List Action} {d d' : Deliveries}
    (ha : requests actions = []) (hp : performAll host actions d s = .done () (d', s')) :
    d' = d := by
  induction actions generalizing d s with
  | nil =>
    cases hp
    rfl
  | cons action rest ih =>
    obtain ⟨d₁, s₁, hact, hrest⟩ := performAll_cons_done hp
    cases action with
    | note notice =>
      cases hact
      exact ih ha hrest
    | _ => simp [requests, Action.isNote] at ha

/-- All that a move asks for is asked of the surroundings. -/
theorem Move.filterMap_asked? {timer : TimerHandle} {actions : List Action}
    (m : Move r timer input r' actions) : actions.filterMap Action.asked? = actions := by
  have hasked : ∀ a ∈ actions, a.asked? = some a := by
    cases m with
    | modemPaired | modelPaired =>
      intro a ha
      simp only [List.mem_cons, mem_verdict] at ha
      grind [Action.asked?]
    | modeTaken =>
      intro a ha
      rcases of_mem_drain ha with ⟨_, rfl⟩ | ⟨_, rfl⟩ | ⟨_, rfl⟩ <;> rfl
    | _ => simp [Action.asked?]
  rw [List.filterMap_congr hasked, List.filterMap_some]

/-- A call of a sound relay is a move, and what a view sees of it is what has been seen. Where
nothing is asked for, no line is counted. -/
theorem Sound.move_watched {β : Type} {view : Action → Option β} {seen seen' : List β}
    (h : r.Sound) (hv : Action.Outward view)
    (hcall : handle (host.watched view) input r (s, seen) = .done () (r', (s', seen'))) :
    ∃ r₁ actions deliveries, Move r (host.nextTimer s) input r₁ actions ∧
      r' = { r₁ with deliveries } ∧ seen' = seen ++ actions.filterMap view ∧
      (actions = [] → deliveries = r.deliveries) := by
  obtain ⟨deliveries, hp, hr⟩ := handle_done hcall
  refine ⟨_, _, deliveries, h.move input, hr, ?_, fun ha => deliveries_of_requests_nil ha hp⟩
  rw [hv.filterMap_requests]
  exact performAll_watched hv hp

/-- A run from the start where there is a modem, among surroundings that take every line, with what
a view sees of all that they are asked for. -/
def Journal.watch {β : Type} (view : Action → Option β) (inputs : List Input) :
    Outcome (Relay × Journal × List β) (List Call) :=
  handleAll (Journal.host.watched view) inputs (.new {} true) (⟨⟨1⟩, [], #[], {}, #[]⟩, [])

/-! ## The pending exchanges between calls -/

theorem Move.hasModem_eq (m : Move r timer input r' actions) : r'.hasModem = r.hasModem := by
  cases m <;> rfl

/-- What can be relied on between the calls of a relay. -/
structure Coherent (r : Relay) : Prop where
  /-- Each pending exchange holds one of the two answers, and not the other. -/
  oneAnswer : ∀ e ∈ r.pending.toList, e.modemValue.isSome = !e.modelValue.isSome
  /-- A timer guards the exchanges that the model has answered, and no others. -/
  guarded : ∀ e ∈ r.pending.toList, e.timer.isSome = e.modelValue.isSome
  oneSided : (∀ e ∈ r.pending.toList, e.awaitsModem = true) ∨
    ∀ e ∈ r.pending.toList, e.awaitsModel = true
  ascending : r.pending.toList.Pairwise (·.id.val < ·.id.val)
  fresh : ∀ e ∈ r.pending.toList, e.id.val < r.pending.nextId.val
  /-- Nothing is pending unless answers are compared. -/
  idle : r.mode ≠ .splitVerify → r.pending.isEmpty = true
  /-- The modem owes nothing while answers are compared. -/
  settled : r.mode = .splitVerify → r.owedModemLines = 0
  attached : r.mode.requiresModem = true → r.hasModem = true
  /-- No line for the modem is ever refused for want of one. -/
  deliverable : ∀ (timer : TimerHandle) (input : Input) (line : String) (mode : Mode),
    .undeliverable line mode ∉ (r.step timer input).2

theorem Sound.coherent (h : r.Sound) : r.Coherent where
  oneAnswer e he := by
    rcases h.modelFirst_or_modemFirst he with ⟨x, model, timer, rfl⟩ | ⟨x, modem, rfl⟩
    · rfl
    · rfl
  guarded e he := by
    rcases h.modelFirst_or_modemFirst he with ⟨x, model, timer, rfl⟩ | ⟨x, modem, rfl⟩
    · rfl
    · rfl
  oneSided := h.oneSided.imp (fun hs e he => (hs e he).awaitsModem_eq)
    fun hs e he => (hs e he).awaitsModel_eq
  ascending := h.ascending
  fresh := h.fresh
  idle hm := by rw [PendingQueue.isEmpty_eq, h.idle hm, List.isEmpty_nil]
  settled := h.settled
  attached hm := h.attached fun heq => by simp [heq, Mode.requiresModem] at hm
  deliverable := h.deliverable

/-- **The pending exchanges are in order between all calls**, whatever lines come, whichever timers
fire, however the mode is changed and whichever lines are refused. -/
theorem coherent_handleAll_new (host : Host σ) (inputs : List Input) (config : Config)
    (hasModem : Bool) (s : σ) :
    (handleAll host inputs (.new config hasModem) s).state.1.Coherent ∧
      (handleAll host inputs (.new config hasModem) s).state.1.hasModem = hasModem := by
  have h : (handleAll host inputs (.new config hasModem) s).state.1.Sound ∧
      (handleAll host inputs (.new config hasModem) s).state.1.hasModem = hasModem := by
    refine handleAll_invariant (I := fun r => r.Sound ∧ r.hasModem = hasModem) ?_ ?_ ?_
      ⟨.new config hasModem, rfl⟩
    · exact fun timer input h =>
        ⟨h.1.step timer input, (h.1.move input).hasModem_eq.trans h.2⟩
    · exact fun timer input deliveries h => ⟨h.1.halted (h.1.move input) deliveries, h.2⟩
    · exact fun deliveries h => ⟨h.1.deliver deliveries, h.2⟩
  exact ⟨h.1.coherent, h.2⟩

/-! ## The answers that the client is offered -/

/-- The same surroundings, which keep the lines that an endpoint is offered, taken or refused. -/
def Host.recording (host : Host σ) (target : Endpoint) : Host (σ × List String) where
  send e line s :=
    (host.send e line s.1).mapState (·, if e = target then s.2 ++ [line] else s.2)
  nextTimer s := host.nextTimer s.1
  arm delay exchange s := (host.arm delay exchange s.1).mapState (·, s.2)
  cancel timer s := (host.cancel timer s.1, s.2)
  report failure s := (host.report failure s.1, s.2)
  note notice s := (host.note notice s.1, s.2)

theorem Action.outward_line? : Action.Outward (·.line? target) :=
  ⟨fun _ => rfl, fun _ _ => rfl⟩

/-- To keep the lines is to watch for them. -/
theorem Host.recording_eq (host : Host σ) (target : Endpoint) :
    host.recording target = host.watched (·.line? target) := by
  unfold recording watched
  congr 1
  · funext e line s
    congr 1
    funext s₁
    simp only [Action.line?_send]
    split <;> simp
  · funext delay x s
    simp
  · funext timer s
    simp
  · funext failure s
    simp

/-- A call of a sound relay is a move, and the lines that it asks for are offered. -/
theorem handle_recording {lines lines' : List String} (h : r.Sound)
    (hcall : handle (host.recording target) input r (s, lines) = .done () (r', (s', lines'))) :
    ∃ timer r₁ actions deliveries, Move r timer input r₁ actions ∧ r' = { r₁ with deliveries } ∧
      lines' = lines ++ actions.filterMap (·.line? target) := by
  rw [Host.recording_eq] at hcall
  obtain ⟨r₁, actions, deliveries, hmove, hr, hlines, -⟩ :=
    h.move_watched Action.outward_line? hcall
  exact ⟨_, r₁, actions, deliveries, hmove, hr, hlines⟩

/-- No timer takes effect in the call but that of the oldest pending exchange. -/
def Call.OldestFirst (c : Call) : Prop :=
  ∀ x ∈ c.input.timer?, (∃ e ∈ c.before.pending.toList, e.id = x ∧ e.awaitsModem = true) →
    c.before.pending.head?.map (·.id) = some x

instance (c : Call) : Decidable c.OldestFirst :=
  inferInstanceAs (Decidable (∀ x ∈ c.input.timer?,
    (∃ e ∈ c.before.pending.toList, e.id = x ∧ e.awaitsModem = true) →
      c.before.pending.head?.map (·.id) = some x))

theorem Call.OldestFirst.head?_eq {c : Call} (ho : c.OldestFirst) (h : c.before.Sound)
    {x : ExchangeId} (hx : x ∈ c.input.timer?) {e : Exchange} (he : e ∈ c.before.pending.toList)
    (hid : e.id = x) (hf : e.ModelFirst) : c.before.pending.toList.head? = some e := by
  have hhead := ho x hx ⟨e, he, hid, hf.awaitsModem_eq⟩
  rw [PendingQueue.head?_eq, Option.map_eq_some_iff] at hhead
  obtain ⟨first, hfirst, hsame⟩ := hhead
  rw [hfirst, h.eq_of_id (List.mem_of_head? hfirst) he (hsame.trans hid.symm)]

/-- The answers that the client is offered over some calls, and those that wait after them, are
those that waited before them and those that have come. -/
private theorem offered_handleAll {calls : List Call} {offered offered' : List String}
    (h : r.Sound) (hm : r.mode ≠ .passThrough)
    (hrun : handleAll (host.recording .modemManager) inputs r (s, offered) =
      .done calls (r', (s', offered')))
    (hcalls : ∀ c ∈ calls, c.after.mode ≠ .passThrough) :
    ∃ new, offered' = offered ++ new ∧
      (new ++ r'.pending.modelValues).Perm
        (r.pending.modelValues ++ inputs.filterMap (·.line? .model)) ∧
      ((∀ c ∈ calls, c.OldestFirst) →
        new ++ r'.pending.modelValues =
          r.pending.modelValues ++ inputs.filterMap (·.line? .model)) := by
  induction inputs generalizing r s offered calls with
  | nil =>
    cases hrun
    exact ⟨[], (List.append_nil _).symm, .of_eq (List.append_nil _).symm,
      fun _ => (List.append_nil _).symm⟩
  | cons input rest ih =>
    obtain ⟨r₁, ⟨s₁, offered₁⟩, later, hcall, hrest, rfl⟩ := handleAll_cons_done hrun
    rw [List.forall_mem_cons] at hcalls
    obtain ⟨timer, r₂, actions, deliveries, hmove, rfl, hoffered⟩ := handle_recording h hcall
    obtain ⟨new, hnew, hperm, heq⟩ :=
      ih ((hmove.sound h).deliver deliveries) hcalls.1 hrest hcalls.2
    refine ⟨actions.filterMap (·.line? .modemManager) ++ new, ?_, ?_, fun ho => ?_⟩
    · rw [hnew, hoffered, List.append_assoc]
    · rw [filterMap_cons_toList, List.append_assoc, ← List.append_assoc r.pending.modelValues]
      refine (hperm.append_left _).trans ?_
      rw [← List.append_assoc]
      exact (hmove.lines_manager_perm h hm hcalls.1).append_right _
    · rw [List.forall_mem_cons] at ho
      have hfirst := hmove.lines_manager_of_oldest h hm hcalls.1
        fun x hx e he hid hf => ho.1.head?_eq h hx he hid hf
      rw [filterMap_cons_toList, List.append_assoc, heq ho.2, ← List.append_assoc,
        ← List.append_assoc]
      exact congrArg (· ++ _) hfirst

/-- **The model's answers are neither lost nor handed over twice**, as long as the pass-through mode
is not entered: those received so far are those that the client has been offered, taken or refused,
and those that wait. Where no timer takes effect but that of the oldest exchange, they are so in
their order. -/
theorem received_perm_offered_append (host : Host σ) (inputs : List Input) (config : Config)
    (hasModem : Bool) (s : σ) {calls : List Call} {offered : List String}
    (hrun : handleAll (host.recording .modemManager) inputs (.new config hasModem) (s, []) =
      .done calls (r, (s', offered)))
    (hm : ∀ c ∈ calls, c.after.mode ≠ .passThrough) :
    (inputs.filterMap (·.line? .model)).Perm (offered ++ r.pending.modelValues) ∧
      ((∀ c ∈ calls, c.OldestFirst) →
        inputs.filterMap (·.line? .model) = offered ++ r.pending.modelValues) := by
  obtain ⟨new, rfl, hperm, heq⟩ :=
    offered_handleAll (.new config hasModem) (by simp [Relay.new]) hrun hm
  exact ⟨hperm.symm, fun ho => (heq ho).symm⟩

/-- Calls in which the client refuses every line and the modem is late for the model's first answer,
in time for its second and cut off before its third. -/
def refusals : Outcome (Relay × Journal × List String) (List Call) :=
  handleAll (Journal.host.recording .modemManager)
    [.setMode .splitVerify, .line .model "A", .line .model "B", .timer ⟨0⟩, .line .modem "b",
      .line .model "C", .setMode .wardModel, .line .model "D", .setMode .splitVerify,
      .line .model "E"]
    (.new {} true) (⟨⟨1⟩, [.modemManager], #[], {}, #[]⟩, [])

theorem received_perm_offered_append_refusals :
    ∃ calls r s offered, refusals = .done calls (r, (s, offered)) ∧
      (∀ c ∈ calls, c.after.mode ≠ .passThrough) ∧ (∀ c ∈ calls, c.OldestFirst) ∧
      offered = ["A", "B", "C", "D"] ∧
      ["A", "B", "C", "D", "E"] = offered ++ r.pending.modelValues := by
  have hrun := Outcome.eq_done (o := refusals) (by decide +kernel)
  have hm : ∀ c ∈ refusals.result?.get (by decide +kernel), c.after.mode ≠ .passThrough := by
    decide +kernel
  have ho : ∀ c ∈ refusals.result?.get (by decide +kernel), c.OldestFirst := by decide +kernel
  exact ⟨_, _, _, _, hrun, hm, ho, by decide +kernel,
    (received_perm_offered_append _ _ _ _ _ hrun hm).2 ho⟩

end ModemRelay.Relay
