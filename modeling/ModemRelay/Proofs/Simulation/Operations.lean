import ModemRelay.Proofs.Simulation.Loops

/-!
# What can be done to a session

A session is used through its operations: it is asked for a mode, lines and changes of mode are
scheduled, and events are handled, one, all, or all until a deadline (`Session.Operation.Does`).
What each of these keeps (`Kept`) holds in every session that they lead to
(`Session.performAll_done`).
-/

namespace ModemRelay.Simulation
open Relay

namespace Session

/-- Something that is done to a session from outside. -/
inductive Operation where
  | setMode (mode : Mode)
  | command (delay : Duration) (line : String)
  | inject (delay : Duration) (source : Endpoint) (line : String)
  | scheduleMode (delay : Duration) (mode : Mode)
  | step
  | run
  | runUntil (deadline : Duration)
  deriving DecidableEq

def Operation.perform : Operation → Session → Outcome Session Unit
  | setMode mode, s => (s.setMode mode).map fun _ => ()
  | command delay line, s => s.command delay line
  | inject delay source line, s => s.inject delay source line
  | scheduleMode delay mode, s => s.scheduleMode delay mode
  | step, s => s.step.map fun _ => ()
  | run, s => s.run.map fun _ => ()
  | runUntil deadline, s => (s.runUntil deadline).map fun _ => ()

/-- How many events an operation can lead to, those that are queued already left aside. -/
def Operation.weight : Operation → Nat
  | command _ line => Agenda.weightOf (.line .modemManager line)
  | inject _ source line => Agenda.weightOf (.line source line)
  | scheduleMode _ mode => Agenda.weightOf (.setMode mode)
  | setMode _ | step | run | runUntil _ => 0

/-- What is left to do once events have been handled: nothing, a note in the log, or to move the
clock to a time by which nothing is due. -/
inductive Settles : Session → Session → Prop
  | done : Settles s s
  | ended : Settles s (s.ended n)
  | waited (hd : ¬s.DueBy time) : Settles s (s.wait time)

/-- What an operation comes to. -/
inductive Operation.Does (s : Session) : Operation → Outcome Session Unit → Prop
  | asks {mode : Mode} : Does s (.setMode mode) ((s.setMode mode).map fun _ => ())
  | schedules (he : event.timer? = none) (hw : operation.weight = Agenda.weightOf event) :
    Does s operation (s.schedule delay event)
  | handles (hn : Handles n s s₁) (hs : Settles s₁ s') : Does s operation (.done () s')
  | halts (hn : Handles n s s₁) (ho : s₁.step = .overflow s') : Does s operation (.overflow s')

/-- Performs operations in order, up to one that stops on a time out of range. -/
def performAll : List Operation → Session → Outcome Session Unit
  | [], s => .done () s
  | operation :: rest, s => (operation.perform s).andThen fun () s => performAll rest s

/-- What every operation keeps of a session. -/
structure Preserved (I : Session → Prop) : Prop where
  steady : I s → s.Steady
  asks {mode effective : Mode} : I s → s.setMode mode = .done effective s' → I s'
  schedules {event : Input} : I s → event.timer? = none →
    s.schedule delay event = .done () s' → I s'
  steps : I s → s.step = .done true s' → I s'
  settles : I s → Settles s s' → I s'

end Session

/-- Moves the clock without anything happening. -/
def Scene.wait (σ : Scene) (time : Duration) : Scene :=
  { σ with agenda := σ.agenda.advanceTo time }

/-- What every operation on a session keeps of its relay and its scene (`Kept.preserved`). -/
structure Kept (answer? : Endpoint → String → Option String) (I : Relay → Scene → Prop) : Prop where
  world : I r σ → World r σ
  turn : I r σ → Turn answer? r σ d r' σ' → I r' σ'
  /-- A mode is asked for between events. -/
  mode {m : Mode} : I r σ → Move r ⟨σ.agenda.nextKey⟩ (.setMode m) r' actions →
    Scene.ActsAll answer? actions σ σ' → ∀ deliveries,
      I { r' with deliveries } (σ'.handled (.setMode m) r'.mode)
  /-- An event other than a timer is scheduled. -/
  post : I r σ → σ.agenda.now ≤ due → event.timer? = none → I r (σ.post due event)
  /-- The clock is moved to a time by which nothing is due. -/
  wait : I r σ → (∀ slot ∈ σ.agenda.queue, time < slot.due) → I r (σ.wait time)

namespace Session

variable {s s₁ s' : Session} {operation : Operation} {n : Nat}

theorem Steady.does (h : s.Steady) (operation : Operation) :
    operation.Does s (operation.perform s) := by
  cases operation with
  | setMode => exact .asks
  | command | inject | scheduleMode => exact .schedules rfl rfl
  | step =>
    rw [Operation.perform]
    cases hs : s.step with
    | done more s₁ =>
      cases more with
      | true => exact .handles (.cons hs .nil) .done
      | false =>
        cases step_idle hs
        exact .handles .nil .done
    | overflow s₁ => exact .halts .nil hs
  | run =>
    obtain ⟨n, s₁, hn, ⟨hdone, -⟩ | ⟨s', ho, hstop⟩⟩ := s.run_cases
    · rw [Operation.perform, hdone]
      exact .handles hn .ended
    · rw [Operation.perform, ho]
      exact .halts hn hstop
  | runUntil deadline =>
    obtain ⟨n, s₁, hn, ⟨hdone, hd⟩ | ⟨s', ho, hstop⟩⟩ := h.runUntil_cases deadline
    · rw [Operation.perform, hdone]
      exact .handles hn (.waited hd)
    · rw [Operation.perform, ho]
      exact .halts hn hstop

theorem Operation.perform_done {J : Session → Prop} (hk : Preserved J) (h : J s)
    (hrun : operation.perform s = .done () s') : J s' := by
  have hdoes := (hk.steady h).does operation
  generalize operation.perform s = o at hdoes hrun
  cases hdoes with
  | asks =>
    obtain ⟨effective, hdone, -⟩ := Outcome.map_eq_done.mp hrun
    exact hk.asks h hdone
  | schedules he _ => exact hk.schedules h he hrun
  | handles hn hs =>
    cases hrun
    exact hk.settles (hn.invariant hk.steps h) hs
  | halts => cases hrun

/-- **What every operation keeps holds in every session that operations lead to.** -/
theorem performAll_preserved {J : Session → Prop} {operations : List Operation}
    (hk : Preserved J) (h : J s) (hrun : performAll operations s = .done () s') : J s' := by
  induction operations generalizing s with
  | nil =>
    cases hrun
    exact h
  | cons operation rest ih =>
    obtain ⟨_, s₁, hop, hrest⟩ := Outcome.andThen_eq_done.mp hrun
    exact ih (operation.perform_done hk h hop) hrest

/-- An event is scheduled by posting it. -/
theorem schedule_done {delay : Duration} {event : Input}
    (hrun : s.schedule delay event = .done () s') :
    ∃ due, s.agenda.now.add? delay = some due ∧ s' = s.mapEnv fun env =>
      { env with agenda := env.agenda.post due event } := by
  obtain ⟨env, hset, rfl⟩ := Outcome.mapState_eq_done.mp hrun
  obtain ⟨key, hs, -⟩ := Outcome.map_eq_done.mp hset
  obtain ⟨due, hdue, -, rfl⟩ := Environment.schedule_eq_done_iff.mp hs
  exact ⟨due, hdue, rfl⟩

/-- To ask for a mode is to hand it to the relay and to write down what has come of it. -/
theorem setMode_done {mode effective : Mode} (hrun : s.setMode mode = .done effective s') :
    ∃ s₁, s.feed (.setMode mode) = .done () s₁ ∧ s'.relay = s₁.relay ∧ s'.steps = s₁.steps ∧
      s'.peers.settings = s₁.peers.settings ∧
      s'.scene = s₁.scene.handled (.setMode mode) s₁.relay.mode := by
  obtain ⟨_, s₁, hf, hend⟩ := Outcome.andThen_eq_done.mp hrun
  cases hend
  exact ⟨s₁, hf, rfl, rfl, rfl, scene_record _⟩

end Session

open Session

theorem Kept.preserved {answer? : Endpoint → String → Option String} {I : Relay → Scene → Prop}
    (hk : Kept answer? I) : Preserved fun s => s.Open answer? ∧ I s.relay s.scene where
  steady := by
    rintro s ⟨ho, h⟩
    exact ⟨ho.closed, (hk.world h).relay, (hk.world h).agenda.toKeyed⟩
  asks := by
    rintro s s' mode effective ⟨ho, h⟩ hrun
    obtain ⟨s₁, hf, hrelay, -, hset', hscene⟩ := setMode_done hrun
    obtain ⟨hset, r', actions, deliveries, hmove, hr, hacts⟩ :=
      feed_done ho.closed (hk.world h).relay hf
    refine ⟨ho.congr (hset'.trans hset), ?_⟩
    rw [hscene, hrelay, hr]
    exact hk.mode h hmove (ho.answers ▸ hacts) deliveries
  schedules := by
    rintro s delay s' event ⟨ho, h⟩ he hrun
    obtain ⟨due, hdue, rfl⟩ := schedule_done hrun
    exact ⟨ho.congr rfl, hk.post h (Duration.le_of_add? hdue) he⟩
  steps := by
    rintro s s' ⟨ho, h⟩ hs
    obtain ⟨hset, d, hd⟩ := step_done ho.closed (hk.world h).relay hs
    exact ⟨ho.congr hset, hk.turn h (ho.answers ▸ hd)⟩
  settles := by
    rintro s s' ⟨ho, h⟩ hs
    cases hs with
    | done => exact ⟨ho, h⟩
    | ended =>
      rw [relay_ended, scene_ended]
      exact ⟨ho.congr s.settings_ended, h⟩
    | waited hd => exact ⟨ho.congr rfl, hk.wait h (not_dueBy_iff.mp hd)⟩

/-- **What every operation keeps of relay and scene holds in every session that operations lead
to.** -/
theorem Session.performAll_done {answer? : Endpoint → String → Option String}
    {I : Relay → Scene → Prop} {s s' : Session} {operations : List Operation}
    (hk : Kept answer? I) (ho : s.Open answer?) (h : I s.relay s.scene)
    (hrun : performAll operations s = .done () s') : I s'.relay s'.scene :=
  (performAll_preserved hk.preserved ⟨ho, h⟩ hrun).2

end ModemRelay.Simulation
