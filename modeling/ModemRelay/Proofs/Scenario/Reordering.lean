import ModemRelay.Proofs.Scenario.Evaluation
import ModemRelay.Proofs.Scenario.Timeline
import ModemRelay.Proofs.Simulation.Renumbering

/-!
# The order of the steps of a scenario

Steps are queued at their times, whichever order a scenario has them in. Only those of equal times
have to stay in the order of the scenario (`Reordered`). Otherwise the order decides which keys the
steps are given, and nothing else: what is queued at a time is the same, and in the same order
(`filter_outline_postAll`). So all that comes of a scenario is the same (`play_reordered`).
-/

namespace ModemRelay

/-- Of one rank, a condition on ranks keeps all or nothing. -/
theorem filter_filter_rank {α β : Type} [DecidableEq β] (rank : α → β) (p : β → Prop)
    [DecidablePred p] (l : List α) (b : β) :
    (l.filter (p <| rank ·)).filter (rank · = b) = if p b then l.filter (rank · = b) else [] := by
  rw [List.filter_filter]
  split
  · next hp => exact List.filter_congr fun x _ => by by_cases hx : rank x = b <;> simp [hx, hp]
  · next hp =>
    exact List.filter_eq_nil_iff.mpr fun x _ => by by_cases hx : rank x = b <;> simp [hx, hp]

/-- Two lists in order are the same if they hold the same of each rank, in the same order. -/
theorem eq_of_filter_eq {α β : Type} [DecidableEq β] {rank : α → β} {r : β → β → Prop}
    (hr : ∀ a b, r a b → r b a → a = b) {l l' : List α}
    (hl : l.Pairwise fun x y => r (rank x) (rank y))
    (hl' : l'.Pairwise fun x y => r (rank x) (rank y))
    (h : ∀ b, l.filter (rank · = b) = l'.filter (rank · = b)) : l = l' := by
  have hmem {l l' : List α} (h : ∀ b, l.filter (rank · = b) = l'.filter (rank · = b)) {x : α}
      (hx : x ∈ l) : x ∈ l' := by
    have hfilter : x ∈ l.filter (rank · = rank x) := List.mem_filter.mpr ⟨hx, by simp⟩
    exact List.mem_of_mem_filter (h (rank x) ▸ hfilter)
  induction l generalizing l' with
  | nil =>
    refine (List.eq_nil_iff_forall_not_mem.mpr fun x hx => ?_).symm
    exact nomatch hmem (fun b => (h b).symm) hx
  | cons x rest ih =>
    cases l' with
    | nil => exact nomatch hmem h List.mem_cons_self
    | cons y rest' =>
      rw [List.pairwise_cons] at hl hl'
      -- each of the two heads is in the other list, so none of them ranks below the other
      have hrank : rank x = rank y := by
        rcases List.mem_cons.mp (hmem h List.mem_cons_self) with rfl | hxmem
        · rfl
        · rcases List.mem_cons.mp (hmem (fun b => (h b).symm) List.mem_cons_self) with rfl | hymem
          · rfl
          · exact hr _ _ (hl.1 y hymem) (hl'.1 x hxmem)
      have hfirst := h (rank x)
      rw [List.filter_cons_of_pos (by simp), List.filter_cons_of_pos (by simp [hrank])] at hfirst
      obtain ⟨rfl, -⟩ := List.cons.inj hfirst
      refine congrArg _ (ih hl.2 hl'.2 fun b => ?_)
      have hb := h b
      by_cases hxb : rank x = b
      · simpa [hxb] using hb
      · simpa [hxb] using hb

theorem Duration.ofMillis_inj {a b : UInt64} : Duration.ofMillis a = .ofMillis b ↔ a = b := by
  refine ⟨fun h => UInt64.toNat_inj.mp ?_, congrArg _⟩
  have hnanos := congrArg Duration.nanos h
  rw [nanos_ofMillis, nanos_ofMillis] at hnanos
  omega

namespace Simulation.Agenda
open Relay

variable {n : Nat} {a : Agenda} {due : Duration} {event : Input}

theorem pairwise_outline (n : Nat) (a : Agenda) : (a.outline n).Pairwise (·.1 ≤ ·.1) := by
  rw [outline, List.pairwise_map]
  refine (a.lane_pairwise some).imp fun {x y} hlt => ?_
  rw [Slot.lt_def] at hlt
  change x.1.due.nanos ≤ y.1.due.nanos
  omega

/-- An event that is posted is the last of those that are due at its time. -/
theorem Keyed.filter_outline_post (h : a.Keyed) (time : Duration) :
    ((a.post due event).outline n).filter (·.1 = time) =
      (a.outline n).filter (·.1 = time) ++
        if due = time then [mark n (⟨due, a.nextKey⟩, event)] else [] := by
  have hearly := filter_filter_rank Prod.fst (· ≤ due) (a.outline n) time
  have hlate := filter_filter_rank Prod.fst (¬· ≤ due) (a.outline n) time
  rw [h.outline_post, List.filter_append, List.filter_cons, hearly, hlate]
  by_cases hdue : due = time
  · subst hdue
    have hle : due ≤ due := Nat.le_refl _
    simp [mark, hle]
  · by_cases hle : time ≤ due <;> simp [mark, hdue, hle]

end Simulation.Agenda

namespace Scenario
open Simulation Relay

variable {s : Scenario} {steps steps' : List Step} {a : Agenda} {n : Nat}

/-- The same steps in another order, those of equal times in the same one. -/
structure Reordered (steps steps' : List Step) : Prop where
  perm : steps.Perm steps'
  stable : ∀ time, steps.filter (·.time = time) = steps'.filter (·.time = time)

/-- Neighbours can be exchanged if their times are different. -/
theorem Reordered.swap {first second : Step} (h : first.time ≠ second.time)
    (before after : List Step) :
    Reordered (before ++ first :: second :: after) (before ++ second :: first :: after) where
  perm := (List.Perm.swap ..).append_left before
  stable time := by
    rw [List.filter_append, List.filter_append]
    refine congrArg _ ?_
    by_cases hfirst : first.time = time
    · have hsecond : second.time ≠ time := fun heq => h (hfirst.trans heq.symm)
      simp [hfirst, hsecond]
    · by_cases hsecond : second.time = time <;> simp [hfirst, hsecond]

theorem nextKey_postAll (a : Agenda) (steps : List Step) :
    (postAll a steps).nextKey = a.nextKey + steps.length := by
  induction steps generalizing a with
  | nil => rfl
  | cons step rest ih =>
    change (postAll (a.post (.ofMillis step.time) step.event) rest).nextKey = _
    rw [ih, Agenda.post, List.length_cons, Nat.add_assoc, Nat.add_comm 1]

theorem Step.timer?_event (step : Step) : step.event.timer? = none := by
  cases step <;> rfl

/-- What is queued at a time, where the keys of the steps do not matter. -/
theorem filter_outline_postAll (h : a.Keyed) (hn : a.nextKey + steps.length ≤ n)
    (time : Duration) :
    ((postAll a steps).outline n).filter (·.1 = time) =
      (a.outline n).filter (·.1 = time) ++
        (steps.filter (Duration.ofMillis ·.time = time)).map fun step =>
          (.ofMillis step.time, step.event, none) := by
  induction steps generalizing a with
  | nil => exact (List.append_nil _).symm
  | cons step rest ih =>
    rw [List.length_cons] at hn
    have hmark : Agenda.mark n (⟨.ofMillis step.time, a.nextKey⟩, step.event) =
        (.ofMillis step.time, step.event, none) := by
      rw [Agenda.mark, if_pos ⟨by dsimp only; omega, step.timer?_event⟩]
    change ((postAll (a.post (.ofMillis step.time) step.event) rest).outline n).filter _ = _
    have hrest : (a.post (.ofMillis step.time) step.event).nextKey + rest.length ≤ n := by
      change a.nextKey + 1 + rest.length ≤ n
      omega
    rw [ih h.post hrest, h.filter_outline_post, hmark, List.append_assoc]
    by_cases htime : Duration.ofMillis step.time = time <;> simp [htime]

/-- The steps of each time are the same, in the same order. -/
theorem Reordered.filter_eq (h : Reordered steps steps') (time : Duration) :
    steps.filter (Duration.ofMillis ·.time = time) =
      steps'.filter (Duration.ofMillis ·.time = time) := by
  by_cases ht : ∃ ms, Duration.ofMillis ms = time
  · obtain ⟨ms, rfl⟩ := ht
    simpa only [Duration.ofMillis_inj] using h.stable ms
  · have hnone (steps : List Step) : steps.filter (Duration.ofMillis ·.time = time) = [] :=
      List.filter_eq_nil_iff.mpr fun step _ => by simpa using fun heq => ht ⟨step.time, heq⟩
    rw [hnone, hnone]

/-- **Another order of the steps only changes the keys that they are given.** -/
theorem Reordered.renumbered (h : Reordered steps steps') :
    (postAll {} steps).Renumbered steps.length (postAll {} steps') where
  keyed := (sound_postAll .new rfl steps).toKeyed
  keyed' := (sound_postAll .new rfl steps').toKeyed
  now := by rw [now_postAll, now_postAll]
  nextKey := by rw [nextKey_postAll, nextKey_postAll, h.perm.length_eq]
  le_nextKey := by
    rw [nextKey_postAll]
    exact Nat.le_add_left ..
  outline := by
    refine eq_of_filter_eq (fun _ _ hle hge => Duration.ext (Nat.le_antisymm hle hge))
      (Agenda.pairwise_outline ..) (Agenda.pairwise_outline ..) fun time => ?_
    have hlength : ({} : Agenda).nextKey + steps.length ≤ steps.length :=
      Nat.le_of_eq (Nat.zero_add _)
    rw [filter_outline_postAll Agenda.Sound.new.toKeyed hlength,
      filter_outline_postAll Agenda.Sound.new.toKeyed (h.perm.length_eq ▸ hlength), h.filter_eq]

/-- Scenarios that differ in their steps alone start alike. -/
theorem exists_session_eq (s : Scenario) : ∃ start : Session,
    start.relay.Sound ∧ start.relay.pending.timers = [] ∧
    ∀ steps, { s with steps }.session =
      .done () (start.mapEnv ({ · with agenda := postAll {} steps })) := by
  obtain ⟨start, hstart, -, hs⟩ := session_done { s with steps := [] }
  have hagenda : start.agenda = {} := hs.agenda
  refine ⟨start, hs.world.relay, ?_, fun steps => ?_⟩
  · rw [PendingQueue.timers, hs.pending, List.filterMap_nil]
  · obtain ⟨mode, _, hmode, heq⟩ := Outcome.andThen_eq_done.mp hstart
    cases heq
    unfold session
    dsimp only at hmode ⊢
    rw [hmode]
    exact (scheduleAll_done (hagenda ▸ rfl) steps).trans (by rw [hagenda])

/-- What can be told of a session when it has ended or has been cut off: the transcript, the relay
with its pending exchanges, its mode and its counters, the clock, how many events have been handled,
and the log. -/
def course (session : Session) :
    Array Observed × Relay × Duration × Nat × Array Simulation.Notice :=
  (session.transcript, session.relay, session.now, session.steps, session.peers.log)

/-- The keys do not show. -/
theorem course_eq {session session' : Session} (h : session.Renumbered n session') :
    course session = course session' := by
  simp only [course, Session.transcript, Session.now, Environment.now, h.relay, h.steps,
    h.peers.env.transcript, h.peers.env.agenda.now, h.peers.log]

/-- What a report and a log say of a session is read off its course. -/
theorem report_log_congr {session session' : Session} (h : course session = course session') :
    s.report session = s.report session' ∧ s.log session = s.log session' := by
  simp only [course, Prod.mk.injEq] at h
  obtain ⟨htranscript, hrelay, hnow, hsteps, hlog⟩ := h
  simp only [report, log, finished, Session.delivered, Session.sentTo, Session.failures,
    htranscript, hrelay, hnow, hsteps, hlog, true_and]

/-- **The order of steps at different times does not matter.** Scenarios whose steps are the same,
and in the same order wherever times are equal, come to the same: both sessions end or are cut off
after as many events, with the same transcript, relay, clock and log, and the reports are the
same. -/
theorem play_reordered (s : Scenario) {steps : List Step} (h : Reordered s.steps steps) :
    { s with steps }.play.mapState course = s.play.mapState course ∧
      { s with steps }.run = s.run ∧
      { s with steps }.log { s with steps }.play.state = s.log s.play.state := by
  obtain ⟨start, hsound, htimers, hsession⟩ := s.exists_session_eq
  have hstart : (start.mapEnv ({ · with agenda := postAll {} s.steps })).Renumbered
      s.steps.length (start.mapEnv ({ · with agenda := postAll {} steps })) := {
    relay := rfl
    above := ⟨hsound, fun t ht => nomatch htimers ▸ ht⟩
    peers := ⟨⟨h.renumbered, rfl, rfl⟩, rfl, rfl, rfl, rfl⟩
    steps := rfl }
  have hplay : Outcome.Alike (Session.Renumbered s.steps.length) s.play
      { s with steps }.play := by
    rw [play, play, hsession steps, (hsession s.steps : s.session = _)]
    exact hstart.run
  obtain ⟨hreport, hlog⟩ := s.report_log_congr (course_eq hplay.state)
  exact ⟨(hplay.mapState_eq course_eq).symm, hreport.symm, hlog.symm⟩

/-- The second command is given first, and two steps are at one time. -/
def shuffled : Scenario where
  seed := 3
  mode := .splitVerify
  modem := some { latency := 5, fallback := some "OK" }
  model := { latency := 2, jitter := 2, fallback := some "OK" }
  steps := [.command 20 "ATI", .command 10 "ATZ", .inject 20 .modem "RING"]

theorem play_reordered_shuffled :
    let steps : List Step := [.command 10 "ATZ", .command 20 "ATI", .inject 20 .modem "RING"]
    Reordered shuffled.steps steps ∧ { shuffled with steps }.run = shuffled.run ∧
      { shuffled with steps }.play.state.transcript = shuffled.play.state.transcript ∧
      shuffled.play.state.failures.toList = [.mismatch "RING" "OK"] := by
  intro steps
  have hswap : Reordered shuffled.steps steps := .swap (by decide) [] _
  obtain ⟨hplay, hrun, -⟩ := play_reordered shuffled hswap
  refine ⟨hswap, hrun, ?_, ?_⟩
  · simpa [course] using congrArg (·.state.1) hplay
  · rw [← evaluate_eq]
    decide +kernel

end Scenario

end ModemRelay
