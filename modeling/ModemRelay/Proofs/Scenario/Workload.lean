import ModemRelay.Proofs.Scenario.Evaluation
import ModemRelay.Proofs.Scenario.Timeline
import ModemRelay.Proofs.Simulation.Uses

/-!
# How much a scenario can lead to

No step of a scenario leads to more than four events, so a scenario that is not too long comes to
its end before a run is stopped (`dwindling_and_play_steps_le`).
-/

namespace ModemRelay

namespace Simulation

theorem Agenda.weightOf_le (event : Relay.Input) : weightOf event ≤ 4 := by
  unfold weightOf
  split <;> decide

end Simulation

namespace Scenario
open Simulation Relay

theorem weight_postAll_le {a : Agenda} (h : a.Keyed) (steps : List Step) :
    (postAll a steps).weight ≤ a.weight + 4 * steps.length := by
  induction steps generalizing a with
  | nil => exact Nat.le_refl _
  | cons step rest ih =>
    have hrest : (postAll (a.post (.ofMillis step.time) step.event) rest).weight ≤ _ := ih h.post
    have hle := Agenda.weightOf_le step.event
    rw [h.weight_post] at hrest
    change (postAll (a.post (.ofMillis step.time) step.event) rest).weight ≤ _
    rw [List.length_cons]
    omega

theorem steps_scheduleAll (steps : List Step) (session : Session) :
    (scheduleAll steps session).state.steps = session.steps := by
  induction steps generalizing session with
  | nil => rfl
  | cons step rest ih =>
    have hsteps : (step.schedule session).state.steps = session.steps := by
      rw [Step.schedule_eq, Session.schedule, Outcome.state_mapState]
    rw [scheduleAll]
    cases hs : step.schedule session with
    | done _ s₁ =>
      rw [hs] at hsteps
      exact (ih s₁).trans hsteps
    | overflow s₁ =>
      rw [hs] at hsteps
      exact hsteps

/-- Scheduling handles nothing. -/
theorem steps_session (s : Scenario) : s.session.state.steps = 0 := by
  let start := Session.new
    { seed := s.seed, relay := s.relay, modem := s.modem, model := s.model }
  have hmode := start.steps_setMode s.mode
  change ((start.setMode s.mode).andThen fun _ => scheduleAll s.steps).state.steps = 0
  cases hs : start.setMode s.mode with
  | done _ s₁ =>
    rw [hs] at hmode
    exact (steps_scheduleAll s.steps s₁).trans hmode
  | overflow s₁ =>
    rw [hs] at hmode
    exact hmode

theorem Start.weight_le {s : Scenario} {r : Relay} {σ : Scene} (h : s.Start r σ) :
    σ.agenda.weight ≤ 4 * s.steps.length := by
  have hle := weight_postAll_le Agenda.Sound.new.toKeyed s.steps
  have hzero : ({} : Agenda).weight = 0 := Agenda.weight_of_size Std.ExtTreeMap.size_empty
  rwa [hzero, Nat.zero_add, ← h.agenda] at hle

/-- The session of a scenario before anything is handled. -/
theorem steady_session (s : Scenario) :
    ∃ session, s.session = .done () session ∧ session.Steady ∧ session.steps = 0 ∧
      session.agenda.weight ≤ 4 * s.steps.length := by
  obtain ⟨session, hs, hopen, hstart⟩ := s.session_done
  have hsteps := s.steps_session
  rw [hs] at hsteps
  exact ⟨session, hs, ⟨hopen.closed, hstart.world.relay, hstart.world.agenda.toKeyed⟩, hsteps,
    hstart.weight_le⟩

/-- **Each event leaves less to come**, in every session and whatever is done to it, so that the
loop until a deadline ends although nothing bounds it. A scenario leads to four events for each of
its steps at most, and comes to its end if a run is not stopped before. -/
theorem dwindling_and_play_steps_le :
    (∀ (config : Session.Config) (uses : List Session.Use) (session : Session),
      Session.useAll uses (.new config) = .done () session → session.Dwindling) ∧
    ∀ s : Scenario, s.play.state.steps ≤ 4 * s.steps.length ∧
      ∀ n session, s.play = .done n session → n ≤ 4 * s.steps.length ∧
        (4 * s.steps.length ≤ Session.maxSteps → session.agenda.size = 0) := by
  refine ⟨fun config uses session hrun => ?_, fun s => ?_⟩
  · exact (Session.steady_useAll (.new config) hrun).dwindling
  · obtain ⟨s₀, hs₀, hsteady, hsteps, hweight⟩ := s.steady_session
    rw [play, hs₀, Outcome.andThen]
    obtain ⟨m, s₁, hm, ⟨hdone, hle, hidle⟩ | ⟨s₂, ho, hstop⟩⟩ := s₀.run_cases
    · have hleft := hm.weight_le hsteady
      refine ⟨?_, fun n session hplay => ?_⟩
      · rw [hdone, Outcome.state, Session.steps_ended, hm.steps_eq, hsteps]
        omega
      · cases hdone.symm.trans hplay
        refine ⟨by omega, fun hmax => ?_⟩
        rw [Session.agenda_ended]
        -- A run that is stopped only now has handled all that there was.
        rcases Nat.lt_or_eq_of_le hle with hlt | rfl
        · exact hidle hlt
        · by_contra hsize
          have hpos := Agenda.weight_pos hsize
          omega
    · have hstopped := hm.steps_le_of_overflow hsteady hstop
      refine ⟨?_, fun n session hplay => by cases ho.symm.trans hplay⟩
      rw [ho, Outcome.state]
      omega

/-- A session in which each command leads to four events: the modem answers when the timer of the
model's answer has fired. -/
def belatedModem : Scenario where
  mode := .splitVerify
  relay := { responseTimeout := .ofMillis 10 }
  modem := some { latency := 50, fallback := some "OK" }
  model := { latency := 1, fallback := some "OK" }
  steps := [.command 0 "ATI", .command 0 "ATZ"]

/-- The environment of a session is used behind the relay's back: a timer is scheduled that guards
nothing, and the clock is moved past it. -/
def meddling : List Session.Use :=
  [.session (.setMode .splitVerify), .session (.command (.ofMillis 3) "ATI"),
    .agenda (.schedule (.ofMillis 5) (.timer ⟨7⟩)), .agenda (.advanceTo (.ofMillis 8)),
    .session (.inject .zero .model "RING"), .agenda (.cancel 2), .draw (.ofMillis 4),
    .record (.received .modem "OK"), .session (.scheduleMode (.ofMillis 1) .passThrough)]

theorem dwindling_and_play_steps_le_belatedModem :
    (∃ session, Session.useAll meddling (.new { modem := some {} }) = .done () session ∧
      session.agenda.size = 3 ∧ session.agenda.weight = 6 ∧ session.Dwindling) ∧
    ∃ n session, belatedModem.play = .done n session ∧ session.steps = 8 ∧
      n ≤ 4 * belatedModem.steps.length ∧ session.agenda.size = 0 := by
  obtain ⟨hdwindling, hscenario⟩ := dwindling_and_play_steps_le
  have hused : Session.useAll meddling (.new { modem := some {} }) =
      .done () (Session.useAll meddling (.new { modem := some {} })).state :=
    Outcome.eq_done (by decide +kernel)
  obtain ⟨n, hplay⟩ := belatedModem.play_eq_done (by decide +kernel)
  obtain ⟨hn, hend⟩ := (hscenario belatedModem).2 n _ hplay
  exact ⟨⟨_, hused, by decide +kernel, by decide +kernel, hdwindling _ _ _ hused⟩, n, _, hplay,
    by decide +kernel, hn, hend (by decide)⟩

end Scenario

end ModemRelay
