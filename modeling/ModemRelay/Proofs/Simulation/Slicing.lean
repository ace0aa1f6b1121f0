import ModemRelay.Proofs.Scenario.Evaluation
import ModemRelay.Proofs.Simulation.Uses

/-!
# Slices of a session

A session that is run up to a deadline and then on is the same as one that is run in one go
(`Session.sliced`). The clock stands later in between, but nothing is due until then, so that the
next event moves it where it would have moved it anyway (`step_wait`).
-/

namespace ModemRelay.Simulation
open Relay

namespace Agenda

variable {a : Agenda} {time time' : Duration}

/-- Where nothing is due before a time, the clock may stand there. -/
theorem popNext_advanceTo (h : ∀ slot ∈ a.queue, time ≤ slot.due) :
    (a.advanceTo time).popNext = a.popNext := by
  have hqueue : (a.advanceTo time).queue = a.queue := rfl
  unfold popNext
  rw [hqueue]
  cases hmin : a.queue.minKey? with
  | none => rfl
  | some slot =>
    have hdue := h slot (Std.ExtTreeMap.minKey?_mem hmin)
    have hnow : max (a.advanceTo time).now slot.due = max a.now slot.due := by
      rw [Duration.le_def] at hdue
      refine Duration.ext ?_
      rw [advanceTo, Duration.nanos_max, Duration.nanos_max, Duration.nanos_max]
      omega
    simp only [Option.bind_eq_bind, Option.bind_some, hnow]
    rfl

theorem advanceTo_advanceTo (h : time ≤ time') :
    (a.advanceTo time).advanceTo time' = a.advanceTo time' := by
  have hnow : max (max a.now time) time' = max a.now time' := by
    rw [Duration.le_def] at h
    refine Duration.ext ?_
    rw [Duration.nanos_max, Duration.nanos_max, Duration.nanos_max]
    omega
  exact congrArg (fun now => { a with now }) hnow

end Agenda

namespace Session

variable {s s₁ s' : Session} {d d₁ d₂ : Duration} {n n₁ m budget handled : Nat}
  {o : Outcome Session Nat}

/-! ## The clock in between -/

/-- **Waiting for what is not due yet changes nothing.** -/
theorem step_wait (hd : ¬s.DueBy d) (hsize : s.agenda.size ≠ 0) : (s.wait d).step = s.step := by
  have hlate : ∀ slot ∈ s.agenda.queue, d ≤ slot.due := fun slot hs =>
    Nat.le_of_lt (not_dueBy_iff.mp hd slot hs)
  have hpop : (s.wait d).peers.env.agenda.popNext = s.peers.env.agenda.popNext :=
    Agenda.popNext_advanceTo hlate
  unfold step
  rw [hpop]
  cases hp : s.peers.env.agenda.popNext with
  | none => exact (hsize (Agenda.size_eq_zero_iff.mpr (Agenda.popNext_eq_none_iff.mp hp))).elim
  | some first => rfl

theorem wait_wait (h : d₁ ≤ d₂) : (s.wait d₁).wait d₂ = s.wait d₂ :=
  congrArg (fun agenda => s.mapEnv ({ · with agenda })) (Agenda.advanceTo_advanceTo h)

/-! ## Slices of the loop -/

namespace Loop

/-- What has been counted before does not change what the loop does. -/
theorem add (h : Loop d n s o) (m : Nat) : Loop d (m + n) s (o.map (m + ·)) := by
  induction h with
  | stop hd => exact .stop hd
  | idle hd hs => exact .idle hd hs
  | next hd hs _ ih => exact .next hd hs ih
  | halt hd hs => exact .halt hd hs

theorem dueBy_mono (h : d₁ ≤ d₂) (hd : s.DueBy d₁) : s.DueBy d₂ := by
  obtain ⟨due, hdue, hle⟩ := hd
  exact ⟨due, hdue, Nat.le_trans hle h⟩

/-- A loop that comes to its deadline can be gone on with until a later one. -/
theorem resume (hle : d₁ ≤ d₂) (h : Loop d₁ n s (.done n₁ s₁)) (h' : Loop d₂ n₁ s₁ o) :
    Loop d₂ n s o := by
  generalize hend : Outcome.done n₁ s₁ = o₁ at h
  induction h with
  | stop hd =>
    cases hend
    exact h'
  | idle hd hs =>
    cases hend
    exact step_idle hs ▸ h'
  | next hd hs _ ih => exact .next (dueBy_mono hle hd) hs (ih hend)
  | halt hd hs => cases hend

theorem resume_overflow (hle : d₁ ≤ d₂) (h : Loop d₁ n s (.overflow s')) :
    Loop d₂ n s (.overflow s') := by
  generalize hend : Outcome.overflow s' = o₁ at h
  induction h with
  | stop | idle => cases hend
  | next hd hs _ ih => exact .next (dueBy_mono hle hd) hs (ih hend)
  | halt hd hs =>
    cases hend
    exact .halt (dueBy_mono hle hd) hs

/-- A loop that goes on where another has come to its deadline comes to the same, up to the clock,
which a later deadline settles. -/
theorem wait (hle : d₁ ≤ d₂) (hd : ¬s.DueBy d₁) (h : Loop d₂ n s o) :
    ∃ o', Loop d₂ n (s.wait d₁) o' ∧
      o'.andThen (fun n s => .done n (s.wait d₂)) = o.andThen fun n s => .done n (s.wait d₂) := by
  cases h with
  | stop hd₂ =>
    refine ⟨.done n (s.wait d₁), .stop hd₂, ?_⟩
    rw [Outcome.andThen, wait_wait hle, Outcome.andThen]
  | idle hd₂ hs =>
    have hsize : s.agenda.size = 0 := size_of_step hs
    refine ⟨.done n (s.wait d₁), .idle hd₂ (step_of_size (s := s.wait d₁) hsize), ?_⟩
    rw [Outcome.andThen, wait_wait hle, Outcome.andThen, step_idle hs]
  | next hd₂ hs h =>
    exact ⟨o, .next hd₂ ((step_wait hd (size_ne_zero_of_step hs)).trans hs) h, rfl⟩
  | halt hd₂ hs =>
    exact ⟨_, .halt hd₂ ((step_wait hd (size_ne_zero_of_overflow hs)).trans hs), rfl⟩

end Loop

/-- **Running until a deadline and then until a later one** is running until the later one. -/
theorem Steady.runUntil_runUntil (h : s.Steady) (hle : d₁ ≤ d₂) :
    ((s.runUntil d₁).andThen fun n₁ s₁ => (s₁.runUntil d₂).map (n₁ + ·)) = s.runUntil d₂ := by
  have hfirst : Loop d₁ 0 s _ := h.loop (Nat.le_refl _)
  obtain ⟨n₁, s₁, hn, hend⟩ := hfirst.handles
  rw [h.runUntil_eq hfirst]
  rcases hend with ⟨hdone, hd⟩ | ⟨s', ho, -⟩
  · rw [hdone] at hfirst ⊢
    rw [Nat.zero_add] at hfirst ⊢
    have h₁ := hn.steady h
    have hsecond : Loop d₂ 0 s₁ _ := h₁.loop (Nat.le_refl _)
    obtain ⟨o', hwaited, hsame⟩ := hsecond.wait hle hd
    rw [h.runUntil_eq (hfirst.resume hle (hsecond.add n₁)), Outcome.andThen, Outcome.andThen,
      (h₁.wait d₁).runUntil_eq hwaited, hsame]
    cases runStepsUntil d₂ s₁.agenda.weight 0 s₁ <;> rfl
  · rw [ho] at hfirst ⊢
    rw [h.runUntil_eq (hfirst.resume_overflow hle)]
    rfl

/-! ## Slices of a run -/

namespace Handles

/-- Steps are a part of those that lead to the end. -/
theorem rest (h : Handles m s s₁) (hn : Handles n s s') (he : s'.agenda.size = 0) :
    ∃ k, m + k = n ∧ Handles k s₁ s' := by
  induction h generalizing n with
  | nil => exact ⟨n, Nat.zero_add n, hn⟩
  | cons hs _ ih =>
    cases hn with
    | nil => exact (size_ne_zero_of_step hs he).elim
    | cons hs' hn =>
      cases hs.symm.trans hs'
      obtain ⟨k, rfl, hk⟩ := ih hn
      exact ⟨k, Nat.add_right_comm .., hk⟩

/-- Where steps lead to the end, no step stops. -/
theorem step_ne_overflow (h : Handles n s s') (he : s'.agenda.size = 0) :
    s.step ≠ .overflow s₁ := by
  intro ho
  cases h with
  | nil => exact size_ne_zero_of_overflow ho he
  | cons hs _ => cases hs.symm.trans ho

/-- Steps to the end are a run. -/
theorem runSteps_eq (h : Handles n s s') (he : s'.agenda.size = 0) (hb : n ≤ budget) :
    runSteps budget handled s = .done (handled + n) s' := by
  induction h generalizing budget handled with
  | nil =>
    cases budget with
    | zero => rfl
    | succ budget =>
      rw [runSteps, step_of_size he]
      rfl
  | cons hs _ ih =>
    cases budget with
    | zero => cases hb
    | succ budget =>
      rw [runSteps, hs]
      exact (ih he (Nat.le_of_succ_le_succ hb)).trans (by rw [Nat.add_right_comm, Nat.add_assoc])

theorem run_eq (h : Handles n s s') (he : s'.agenda.size = 0) (hb : n ≤ maxSteps) :
    s.run = .done n (s'.ended n) := by
  rw [Session.run_eq, h.runSteps_eq he hb, Nat.zero_add]
  rfl

/-- **A clock that stands later does not change what is left**, if nothing is due until then. -/
theorem run_wait (h : Handles n s s') (he : s'.agenda.size = 0) (hb : n ≤ maxSteps)
    (hd : ¬s.DueBy d) : ∃ s₂, (s.wait d).run = .done n s₂ ∧ s₂.agenda.size = 0 ∧
      s₂.relay = s'.relay ∧ s₂.transcript = s'.transcript ∧ s₂.steps = s'.steps := by
  have hended (s₁ : Session) (he : s₁.agenda.size = 0) : (s₁.ended n).agenda.size = 0 ∧
      (s₁.ended n).relay = s₁.relay ∧ (s₁.ended n).transcript = s₁.transcript ∧
      (s₁.ended n).steps = s₁.steps := by
    refine ⟨?_, s₁.relay_ended, congrArg Environment.transcript s₁.env_ended, s₁.steps_ended⟩
    rwa [agenda_ended]
  cases h with
  | nil => exact ⟨_, Handles.nil.run_eq he hb, hended (s.wait d) he⟩
  | cons hs h =>
    have hwaited : Handles _ (s.wait d) s' :=
      .cons ((step_wait hd (size_ne_zero_of_step hs)).trans hs) h
    exact ⟨_, hwaited.run_eq he hb, hended s' he⟩

end Handles

/-- **A run that comes to the end may be interrupted** at any time. -/
theorem Steady.runUntil_run (h : s.Steady) (d : Duration) (hrun : s.run = .done n s')
    (he : s'.agenda.size = 0) :
    ∃ n₁ s₁ n₂ s₂, s.runUntil d = .done n₁ s₁ ∧ s₁.run = .done n₂ s₂ ∧ n₁ + n₂ = n ∧
      s₂.agenda.size = 0 ∧ s₂.relay = s'.relay ∧ s₂.transcript = s'.transcript ∧
      s₂.steps = s'.steps := by
  obtain ⟨m, s₀, hm, ⟨hdone, hle, -⟩ | ⟨_, ho, -⟩⟩ := s.run_cases
  · cases hdone.symm.trans hrun
    rw [agenda_ended] at he
    obtain ⟨n₁, s₁, hn₁, hend⟩ := h.runUntil_cases d
    obtain ⟨n₂, hsum, hn₂⟩ := hn₁.rest hm he
    rcases hend with ⟨huntil, hd⟩ | ⟨_, -, hstop⟩
    · obtain ⟨s₂, hrest, hidle, hrelay, htranscript, hsteps⟩ := hn₂.run_wait he (by omega) hd
      refine ⟨n₁, s₁.wait d, n₂, s₂, huntil, hrest, hsum, hidle, ?_, ?_, ?_⟩
      · rw [hrelay, relay_ended]
      · rw [htranscript, transcript, transcript, env_ended]
      · rw [hsteps, steps_ended]
    · exact (hn₂.step_ne_overflow he hstop).elim
  · cases ho.symm.trans hrun

/-- **Slicing a session does not change it.** The session that is left after running until one
deadline and then until a later one is that after running until the later one, in all its parts, and
as many events have been handled; where one stops on a time out of range, so does the other. A run
that comes to the end does the same if it is interrupted, whenever that is. -/
theorem sliced (config : Config) (uses : List Use) {s : Session}
    (hused : useAll uses (.new config) = .done () s) :
    (∀ d₁ d₂, d₁ ≤ d₂ →
      ((s.runUntil d₁).andThen fun n₁ s₁ => (s₁.runUntil d₂).map (n₁ + ·)) = s.runUntil d₂) ∧
    ∀ d n s', s.run = .done n s' → s'.agenda.size = 0 →
      ∃ n₁ s₁ n₂ s₂, s.runUntil d = .done n₁ s₁ ∧ s₁.run = .done n₂ s₂ ∧ n₁ + n₂ = n ∧
        s₂.agenda.size = 0 ∧ s₂.relay = s'.relay ∧ s₂.transcript = s'.transcript ∧
        s₂.steps = s'.steps := by
  have h := steady_useAll (.new config) hused
  exact ⟨fun d₁ d₂ hle => h.runUntil_runUntil hle, fun d n s' hrun he => h.runUntil_run d hrun he⟩

/-- A session whose modem is slower than the response timeout. -/
def sluggish : Config where
  relay := { responseTimeout := .ofMillis 30 }
  modem := some { latency := 50, fallback := some "OK" }
  model := { latency := 10, fallback := some "OK" }

/-- A line of the model is slipped in, and the clock is moved past it and past a command. -/
def slippage : List Use :=
  [.session (.setMode .splitVerify), .session (.command .zero "AT"),
    .agenda (.schedule (.ofMillis 5) (.line .model "RING")), .agenda (.advanceTo (.ofMillis 8)),
    .session (.command (.ofMillis 2) "ATI")]

theorem sliced_slippage :
    ∃ s, useAll slippage (.new sluggish) = .done () s ∧
      ((s.runUntil (.ofMillis 20)).andThen fun n₁ s₁ =>
        (s₁.runUntil (.ofMillis 45)).map (n₁ + ·)) = s.runUntil (.ofMillis 45) ∧
      ∃ n s', s.run = .done n s' ∧ s'.agenda.size = 0 ∧ s'.delivered = ["RING", "OK", "OK"] ∧
        ∃ n₁ s₁ n₂ s₂, s.runUntil (.ofMillis 20) = .done n₁ s₁ ∧ s₁.run = .done n₂ s₂ ∧
          n₁ + n₂ = n ∧ s₂.agenda.size = 0 ∧ s₂.relay = s'.relay ∧
          s₂.transcript = s'.transcript ∧ s₂.steps = s'.steps := by
  let s := (useAll slippage (.new sluggish)).state
  have hused : useAll slippage (.new sluggish) = .done () s := Outcome.eq_done (by decide +kernel)
  let o := (runFirst maxSteps 0 s).andThen fun n s => .done n (s.ended n)
  have ho : s.run = o := by rw [run_eq, ← runFirst_eq]
  have hrun : s.run = .done _ o.state := ho.trans (Outcome.eq_done (by decide +kernel))
  have hend : o.state.agenda.size = 0 := by decide +kernel
  obtain ⟨hslices, hwhole⟩ := sliced sluggish slippage hused
  exact ⟨s, hused, hslices _ _ (by decide), _, _, hrun, hend, by decide +kernel,
    hwhole (.ofMillis 20) _ _ hrun hend⟩

end Session

end ModemRelay.Simulation
