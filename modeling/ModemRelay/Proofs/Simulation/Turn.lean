import ModemRelay.Proofs.Simulation.Views

/-!
# The turns of a session

Handling an event is a turn: the earliest event is taken off and written down, the relay makes a
move, and the peers carry it out (`Turn`). A session is done with a turn or halts half way through
one (`Halt`), because a time would be too late. A run is a number of turns (`Session.run_cases`), so
what each turn keeps holds after it, and before the turn that it halts in (`run_done`,
`run_overflow`).
-/

namespace ModemRelay.Simulation
open Relay

namespace Scene

/-- What is written down of an event before the relay hears of it. -/
def heard (σ : Scene) (d : Due) : Scene :=
  match d.event with
  | .line source line => σ.record (.received source line)
  | .timer x => σ.record (.fired ⟨d.key⟩ x)
  | .setMode _ => σ

/-- What is written down of an event after the relay has handled it. -/
def handled (σ : Scene) (input : Input) (effective : Mode) : Scene :=
  match input with
  | .setMode requested => σ.record (.modeChanged requested effective)
  | _ => σ

section

variable {σ : Scene} {d : Due} {input : Input} {effective : Mode} {deliveries : Deliveries}

/-- What is kept when lines that come and timers that fire are written down holds when the relay
hears of an event. -/
theorem heard_invariant {I : Scene → Prop} (h : I σ)
    (hr : ∀ source line, I (σ.record (.received source line)))
    (hf : ∀ timer x, I (σ.record (.fired timer x))) : I (σ.heard d) := by
  unfold heard
  cases d.event with
  | line source line => exact hr source line
  | timer x => exact hf ⟨d.key⟩ x
  | setMode => exact h

/-- What is kept when modes that were asked for are written down holds once an event is handled. -/
theorem handled_invariant {I : Scene → Prop} (h : I σ)
    (hm : ∀ requested, I (σ.record (.modeChanged requested effective))) :
    I (σ.handled input effective) := by
  unfold handled
  split
  · exact hm _
  · exact h

theorem Tallied.heard (h : σ.Tallied deliveries) : (σ.heard d).Tallied deliveries :=
  heard_invariant (I := (·.Tallied deliveries)) h (fun _ _ => h.record fun _ => rfl)
    fun _ _ => h.record fun _ => rfl

theorem Tallied.handled (h : σ.Tallied deliveries) :
    (σ.handled input effective).Tallied deliveries :=
  handled_invariant (I := (·.Tallied deliveries)) h fun _ => h.record fun _ => rfl

end

end Scene

/-- A relay and its scene before and after the event `d`. -/
inductive Turn (answer? : Endpoint → String → Option String) (r : Relay) (σ : Scene) (d : Due) :
    Relay → Scene → Prop
  | intro (pop : σ.agenda.popNext = some (d, agenda))
    (move : Move r ⟨agenda.nextKey⟩ d.event r' actions)
    (acts : Scene.ActsAll answer? actions (Scene.heard { σ with agenda } d) σ')
    (deliveries : Deliveries) :
    Turn answer? r σ d { r' with deliveries } (σ'.handled d.event r'.mode)

/-- A relay and its scene before the event `d`, and where the peers have stopped. -/
inductive Halt (answer? : Endpoint → String → Option String) (r : Relay) (σ : Scene) (d : Due) :
    Relay → Scene → Prop
  | onLine (pop : σ.agenda.popNext = some (d, agenda))
    (move : Move r ⟨agenda.nextKey⟩ d.event r' (before ++ .send target line :: after))
    (hne : target ≠ .modemManager)
    (acts : Scene.ActsAll answer? before (Scene.heard { σ with agenda } d) σ')
    (deliveries : Deliveries) (late : σ'.agenda.now.add? Responder.longest = none) :
    Halt answer? r σ d (r.halted r' deliveries) (σ'.record (.sent target line))
  | onTimer (pop : σ.agenda.popNext = some (d, agenda))
    (move : Move r ⟨agenda.nextKey⟩ d.event r' (before ++ .arm delay x :: after))
    (acts : Scene.ActsAll answer? before (Scene.heard { σ with agenda } d) σ')
    (deliveries : Deliveries) (late : σ'.agenda.now.add? delay = none) :
    Halt answer? r σ d (r.halted r' deliveries) { σ' with agenda := σ'.agenda.takeKey }

namespace Session

/-- `n` events are handled, one after the other. -/
inductive Handles : Nat → Session → Session → Prop
  | nil : Handles 0 s s
  | cons (hs : s.step = .done true s₁) (h : Handles n s₁ s') : Handles (n + 1) s s'

variable {s s₁ s' : Session} {input : Input} {d : Due} {agenda : Agenda} {n : Nat}

/-- The scene of a session. -/
def scene (s : Session) : Scene := s.peers.scene

theorem sentTo_eq (s : Session) (e : Endpoint) : s.sentTo e = s.scene.sentTo e := rfl

theorem toList_failures (s : Session) : s.failures.toList = s.scene.failures := by
  rw [FailureLog.toList, failures, Array.toList_filterMap]
  rfl

theorem feed_done (hc : s.peers.closed = []) (hs : s.relay.Sound)
    (h : s.feed input = .done () s') :
    s'.peers.settings = s.peers.settings ∧ ∃ r' actions deliveries,
      Move s.relay ⟨s.agenda.nextKey⟩ input r' actions ∧
      s'.relay = { r' with deliveries } ∧
      Scene.ActsAll s.peers.answer? actions s.scene s'.scene := by
  obtain ⟨⟨r', p'⟩, hcall, rfl⟩ := Outcome.mapState_eq_done.mp h
  obtain ⟨deliveries, hp, hr⟩ := handle_done hcall
  obtain ⟨hset, hacts⟩ := Peers.performAll_done hc hp
  exact ⟨hset, _, _, deliveries, hs.move input, hr, hacts⟩

/-- A step that is handed on counts the lines that the endpoints are sent. -/
theorem feed_tallied (hc : s.peers.closed = []) (hs : s.relay.Sound)
    (h : s.feed input = .done () s') (ht : s.scene.Tallied s.relay.deliveries) :
    s'.scene.Tallied s'.relay.deliveries := by
  obtain ⟨⟨r', p'⟩, hcall, rfl⟩ := Outcome.mapState_eq_done.mp h
  obtain ⟨deliveries, hp, rfl⟩ := handle_done hcall
  exact Peers.performAll_tallied hc (hs.deliverable _ input) hp ht

theorem feed_overflow (hc : s.peers.closed = []) (hs : s.relay.Sound)
    (h : s.feed input = .overflow s') :
    s'.peers.settings = s.peers.settings ∧ ∃ r' before a after σ deliveries,
      Move s.relay ⟨s.agenda.nextKey⟩ input r' (before ++ a :: after) ∧
      s'.relay = s.relay.halted r' deliveries ∧
      Scene.ActsAll s.peers.answer? before s.scene σ ∧ Scene.Stops a σ s'.scene := by
  obtain ⟨⟨r', p'⟩, hcall, rfl⟩ := Outcome.mapState_eq_overflow.mp h
  obtain ⟨deliveries, hp, hr⟩ := handle_overflow hcall
  obtain ⟨hset, before, a, after, σ, hreq, hacts, hstop⟩ := Peers.performAll_overflow hc hp
  exact ⟨hset, _, before, a, after, σ, deliveries, hreq ▸ hs.move input, hr, hacts, hstop⟩

theorem scene_record (trace : Trace) :
    (s.mapEnv (·.record trace)).scene = s.scene.record trace := by
  simp only [scene, Peers.scene, mapEnv, Environment.record, Array.toList_push]
  rfl

/-- A session just before the relay hears of an event. -/
private def hearing (s : Session) (d : Due) (agenda : Agenda) : Session :=
  let s := { s.mapEnv ({ · with agenda }) with steps := s.steps + 1 }
  match d.event with
  | .line source line => s.mapEnv (·.record (.received source line))
  | .timer x => s.mapEnv (·.record (.fired ⟨d.key⟩ x))
  | .setMode _ => s

private theorem scene_hearing :
    (s.hearing d agenda).scene = Scene.heard { s.scene with agenda } d := by
  unfold hearing Scene.heard
  split
  · exact scene_record _
  · exact scene_record _
  · rfl

private theorem relay_hearing : (s.hearing d agenda).relay = s.relay := by
  unfold hearing
  split <;> rfl

private theorem settings_hearing : (s.hearing d agenda).peers.settings = s.peers.settings := by
  unfold hearing
  split <;> rfl

private theorem agenda_hearing : (s.hearing d agenda).agenda = agenda := by
  unfold hearing
  split <;> rfl

/-- A session once the relay has handled an event. -/
private def noting (s : Session) (input : Input) : Session :=
  match input with
  | .setMode mode => s.mapEnv (·.record (.modeChanged mode s.relay.mode))
  | _ => s

private theorem scene_noting : (s.noting input).scene = s.scene.handled input s.relay.mode := by
  unfold noting Scene.handled
  split
  · exact scene_record _
  · rfl

private theorem relay_noting : (s.noting input).relay = s.relay := by
  unfold noting
  split <;> rfl

private theorem settings_noting : (s.noting input).peers.settings = s.peers.settings := by
  unfold noting
  split <;> rfl

private theorem step_some (hp : s.peers.env.agenda.popNext = some (d, agenda)) :
    s.step = ((s.hearing d agenda).feed d.event).andThen fun () s =>
      .done true (s.noting d.event) := by
  obtain ⟨key, time, event⟩ := d
  unfold step
  rw [hp]
  cases event with
  | line source line =>
    simp only [dispatch, hearing]
    cases feed _ _ <;> rfl
  | timer x =>
    simp only [dispatch, hearing]
    cases feed _ _ <;> rfl
  | setMode mode =>
    simp only [dispatch, hearing, setMode]
    cases feed _ _ <;> rfl

/-- A step that is done feeds the relay the earliest event. -/
private theorem step_eq_true (h : s.step = .done true s') :
    ∃ d agenda s₁, s.agenda.popNext = some (d, agenda) ∧
      (s.hearing d agenda).feed d.event = .done () s₁ ∧ s' = s₁.noting d.event := by
  cases hp : s.peers.env.agenda.popNext with
  | none => simp [step, hp] at h
  | some first =>
    rw [step_some hp] at h
    obtain ⟨_, s₁, hf, hs⟩ := Outcome.andThen_eq_done.mp h
    cases hs
    exact ⟨first.1, first.2, s₁, hp, hf, rfl⟩

/-- A step that stops does so while the relay handles the earliest event. -/
private theorem step_eq_overflow (h : s.step = .overflow s') :
    ∃ d agenda, s.agenda.popNext = some (d, agenda) ∧
      (s.hearing d agenda).feed d.event = .overflow s' := by
  cases hp : s.peers.env.agenda.popNext with
  | none => simp [step, hp] at h
  | some first =>
    rw [step_some hp] at h
    rcases Outcome.andThen_eq_overflow.mp h with hf | ⟨_, s₁, -, hs⟩
    · exact ⟨first.1, first.2, hp, hf⟩
    · cases hs

theorem popNext_of_step_idle (h : s.step = .done false s') :
    s.peers.env.agenda.popNext = none := by
  cases hp : s.peers.env.agenda.popNext with
  | none => rfl
  | some first =>
    obtain ⟨d, agenda⟩ := first
    rw [step_some hp] at h
    obtain ⟨_, s₁, -, h⟩ := Outcome.andThen_eq_done.mp h
    cases h

theorem step_idle (h : s.step = .done false s') : s' = s := by
  simp only [step, popNext_of_step_idle h] at h
  cases h
  rfl

theorem step_of_size (h : s.agenda.size = 0) : s.step = .done false s := by
  have hp : s.peers.env.agenda.popNext = none :=
    Agenda.popNext_eq_none_iff.mpr (Agenda.size_eq_zero_iff.mp h)
  simp only [step, hp]

theorem size_of_step (h : s.step = .done false s') : s.agenda.size = 0 :=
  Agenda.size_eq_zero_iff.mpr (Agenda.popNext_eq_none_iff.mp (popNext_of_step_idle h))

theorem size_ne_zero_of_step (h : s.step = .done true s') : s.agenda.size ≠ 0 := by
  intro hs
  rw [step_of_size hs] at h
  cases h

theorem size_ne_zero_of_overflow (h : s.step = .overflow s') : s.agenda.size ≠ 0 := by
  intro hs
  rw [step_of_size hs] at h
  cases h

/-- **A step that is done is a turn.** -/
theorem step_done (hc : s.peers.closed = []) (hs : s.relay.Sound) (h : s.step = .done true s') :
    s'.peers.settings = s.peers.settings ∧
      ∃ d, Turn s.peers.answer? s.relay s.scene d s'.relay s'.scene := by
  obtain ⟨d, agenda, s₁, hp, hf, rfl⟩ := step_eq_true h
  have hset : (s.hearing d agenda).peers.settings = s.peers.settings := settings_hearing
  have hrelay : (s.hearing d agenda).relay = s.relay := relay_hearing
  obtain ⟨hset', r', actions, deliveries, hmove, hr, hacts⟩ :=
    feed_done (Peers.closed_congr hset ▸ hc) (hrelay.symm ▸ hs) hf
  rw [hrelay, agenda_hearing] at hmove
  rw [scene_hearing, Peers.answer?_congr hset] at hacts
  refine ⟨settings_noting.trans (hset'.trans hset), d, ?_⟩
  rw [relay_noting, scene_noting, hr]
  exact .intro hp hmove hacts deliveries

/-- A step counts the lines that the endpoints are sent in it. -/
theorem step_tallied (hc : s.peers.closed = []) (hs : s.relay.Sound)
    (h : s.step = .done true s') (ht : s.scene.Tallied s.relay.deliveries) :
    s'.scene.Tallied s'.relay.deliveries := by
  obtain ⟨d, agenda, s₁, -, hf, rfl⟩ := step_eq_true h
  have hset : (s.hearing d agenda).peers.settings = s.peers.settings := settings_hearing
  have hrelay : (s.hearing d agenda).relay = s.relay := relay_hearing
  have hpopped : Scene.Tallied { s.scene with agenda } s.relay.deliveries :=
    ⟨ht.taken, ht.refused⟩
  have hheard : (s.hearing d agenda).scene.Tallied (s.hearing d agenda).relay.deliveries := by
    rw [scene_hearing, hrelay]
    exact hpopped.heard
  have hfed := feed_tallied (Peers.closed_congr hset ▸ hc) (hrelay.symm ▸ hs) hf hheard
  rw [relay_noting, scene_noting]
  exact hfed.handled

/-- **A step that stops is a turn half way through.** -/
theorem step_overflow (hc : s.peers.closed = []) (hs : s.relay.Sound)
    (h : s.step = .overflow s') :
    s'.peers.settings = s.peers.settings ∧
      ∃ d, Halt s.peers.answer? s.relay s.scene d s'.relay s'.scene := by
  obtain ⟨d, agenda, hp, hf⟩ := step_eq_overflow h
  have hset : (s.hearing d agenda).peers.settings = s.peers.settings := settings_hearing
  have hrelay : (s.hearing d agenda).relay = s.relay := relay_hearing
  obtain ⟨hset', r', before, a, after, σ, deliveries, hmove, hr, hacts, hstop⟩ :=
    feed_overflow (Peers.closed_congr hset ▸ hc) (hrelay.symm ▸ hs) hf
  rw [hrelay, agenda_hearing] at hmove
  rw [hrelay] at hr
  rw [scene_hearing, Peers.answer?_congr hset] at hacts
  refine ⟨hset'.trans hset, d, ?_⟩
  rw [hr]
  generalize s'.scene = σ' at hstop
  cases hstop with
  | onLine hne late => exact .onLine hp hmove hne hacts deliveries late
  | onTimer late => exact .onTimer hp hmove hacts deliveries late

/-! ## Runs -/

/-- What every step keeps holds after any number of them. -/
theorem Handles.invariant {J : Session → Prop} (hn : Handles n s s')
    (hstep : ∀ {s s'}, J s → s.step = .done true s' → J s') (h : J s) : J s' := by
  induction hn with
  | nil => exact h
  | cons hs _ ih => exact ih (hstep h hs)

/-- A run handles events until none is left, the budget is used up, or one stops. -/
theorem runSteps_cases (budget handled : Nat) (s : Session) : ∃ n s₁, Handles n s s₁ ∧
    (runSteps budget handled s = .done (handled + n) s₁ ∧ n ≤ budget ∧
        (n < budget → s₁.agenda.size = 0) ∨
      ∃ s', runSteps budget handled s = .overflow s' ∧ s₁.step = .overflow s') := by
  induction budget generalizing handled s with
  | zero => exact ⟨0, s, .nil, .inl ⟨rfl, Nat.le_refl _, fun h => (Nat.lt_irrefl _ h).elim⟩⟩
  | succ budget ih =>
    unfold runSteps
    cases hs : s.step with
    | done more s₁ =>
      cases more with
      | true =>
        obtain ⟨n, s₂, hn, hend⟩ := ih (handled + 1) s₁
        refine ⟨n + 1, s₂, .cons hs hn, hend.imp_left ?_⟩
        rintro ⟨hdone, hle, hsize⟩
        rw [Nat.add_right_comm, Nat.add_assoc] at hdone
        exact ⟨hdone, Nat.succ_le_succ hle, fun hlt => hsize (Nat.lt_of_succ_lt_succ hlt)⟩
      | false =>
        cases step_idle hs
        exact ⟨0, s, .nil, .inl ⟨rfl, Nat.zero_le _, fun _ => size_of_step hs⟩⟩
    | overflow s₁ => exact ⟨0, s, .nil, .inr ⟨s₁, rfl, hs⟩⟩

/-- A session at the end of a run: the log says so where the run has been stopped. -/
def ended (handled : Nat) (s : Session) : Session :=
  if handled = maxSteps then
    { s with peers := s.peers.note (.stopped s.peers.env.random.seed maxSteps) }
  else
    s

theorem run_eq (s : Session) :
    s.run = (runSteps maxSteps 0 s).andThen fun handled s => .done handled (s.ended handled) := rfl

@[simp] theorem relay_ended (s : Session) : (s.ended n).relay = s.relay := by
  unfold ended
  split <;> rfl

@[simp] theorem env_ended (s : Session) : (s.ended n).peers.env = s.peers.env := by
  unfold ended
  split <;> rfl

@[simp] theorem settings_ended (s : Session) :
    (s.ended n).peers.settings = s.peers.settings := by
  unfold ended
  split <;> rfl

@[simp] theorem steps_ended (s : Session) : (s.ended n).steps = s.steps := by
  unfold ended
  split <;> rfl

@[simp] theorem scene_ended (s : Session) : (s.ended n).scene = s.scene := by
  unfold ended
  split <;> rfl

@[simp] theorem agenda_ended (s : Session) : (s.ended n).agenda = s.agenda :=
  congrArg Scene.agenda s.scene_ended

/-- What a run comes to. -/
theorem run_cases (s : Session) : ∃ n s₁, Handles n s s₁ ∧
    (s.run = .done n (s₁.ended n) ∧ n ≤ maxSteps ∧ (n < maxSteps → s₁.agenda.size = 0) ∨
      ∃ s', s.run = .overflow s' ∧ s₁.step = .overflow s') := by
  obtain ⟨n, s₁, hn, hend⟩ := runSteps_cases maxSteps 0 s
  refine ⟨n, s₁, hn, ?_⟩
  rw [run_eq]
  rcases hend with ⟨hdone, hleft⟩ | ⟨s', ho, hstep⟩
  · rw [hdone, Nat.zero_add]
    exact .inl ⟨rfl, hleft⟩
  · rw [ho]
    exact .inr ⟨s', rfl, hstep⟩

section Runs

variable {answer? : Endpoint → String → Option String} {I : Relay → Scene → Prop}

/-- A session with open channels, whose endpoints answer by `answer?`. -/
structure Open (answer? : Endpoint → String → Option String) (s : Session) : Prop where
  closed : s.peers.closed = []
  answers : s.peers.answer? = answer?

theorem Open.congr (h : s.Open answer?) (hset : s'.peers.settings = s.peers.settings) :
    s'.Open answer? :=
  ⟨Peers.closed_congr hset ▸ h.closed, (Peers.answer?_congr hset).trans h.answers⟩

/-- What every turn keeps holds after any number of steps. -/
theorem Handles.kept (h : Handles n s s') (hI : ∀ {r σ}, I r σ → r.Sound)
    (hturn : ∀ {r σ d r' σ'}, I r σ → Turn answer? r σ d r' σ' → I r' σ')
    (ho : s.Open answer?) (hs : I s.relay s.scene) : s'.Open answer? ∧ I s'.relay s'.scene := by
  refine h.invariant (J := fun s => s.Open answer? ∧ I s.relay s.scene) ?_ ⟨ho, hs⟩
  rintro s s' ⟨ho, hs⟩ hstep
  obtain ⟨hset, d, hd⟩ := step_done ho.closed (hI hs) hstep
  exact ⟨ho.congr hset, hturn hs (ho.answers ▸ hd)⟩

/-- **What every turn keeps holds after a run.** -/
theorem run_done (hI : ∀ {r σ}, I r σ → r.Sound)
    (hturn : ∀ {r σ d r' σ'}, I r σ → Turn answer? r σ d r' σ' → I r' σ')
    (ho : s.Open answer?) (h : I s.relay s.scene) (hrun : s.run = .done n s') :
    s'.Open answer? ∧ I s'.relay s'.scene := by
  obtain ⟨m, s₁, hm, ⟨hdone, -⟩ | ⟨_, hover, -⟩⟩ := s.run_cases
  · cases hdone.symm.trans hrun
    obtain ⟨ho', h'⟩ := hm.kept hI hturn ho h
    rw [relay_ended, scene_ended]
    exact ⟨ho'.congr s₁.settings_ended, h'⟩
  · cases hover.symm.trans hrun

/-- **What every turn keeps holds before the turn that a run halts in.** -/
theorem run_overflow (hI : ∀ {r σ}, I r σ → r.Sound)
    (hturn : ∀ {r σ d r' σ'}, I r σ → Turn answer? r σ d r' σ' → I r' σ')
    (ho : s.Open answer?) (h : I s.relay s.scene) (hrun : s.run = .overflow s') :
    ∃ r σ d, I r σ ∧ Halt answer? r σ d s'.relay s'.scene := by
  obtain ⟨m, s₁, hm, ⟨hdone, -⟩ | ⟨_, hover, hstop⟩⟩ := s.run_cases
  · cases hdone.symm.trans hrun
  · cases hover.symm.trans hrun
    obtain ⟨ho', h'⟩ := hm.kept hI hturn ho h
    obtain ⟨-, d, hd⟩ := step_overflow ho'.closed (hI h') hstop
    exact ⟨_, _, d, h', ho'.answers ▸ hd⟩

end Runs

end Session

end ModemRelay.Simulation
