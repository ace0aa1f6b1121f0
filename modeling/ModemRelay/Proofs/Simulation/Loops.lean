import ModemRelay.Proofs.Simulation.Weight

/-!
# The loops of a session

A session handles events one at a time (`Session.Handles`), and until a deadline by a loop that
counts the events but does not bound them (`Session.Loop`). Each event leaves less to come
(`Steady.weight_step_lt`), so the loop ends, and `Session.runUntil` is what it comes to
(`Steady.runUntil_eq`). None of this rests on the timers or on the clock, only on what holds even
where the environment is used behind the relay's back (`Session.Steady`).
-/

namespace ModemRelay.Simulation
open Relay

variable {answer? : Endpoint → String → Option String} {r r' : Relay} {σ σ' : Scene} {d : Due}

theorem Turn.sound (h : Turn answer? r σ d r' σ') (hs : r.Sound) : r'.Sound := by
  cases h with
  | intro _ hm _ deliveries => exact (hm.sound hs).deliver deliveries

theorem Turn.keyed (h : Turn answer? r σ d r' σ') (hs : σ.agenda.Keyed) : σ'.agenda.Keyed := by
  cases h with
  | intro hp _ hacts _ =>
    rw [Scene.agenda_handled]
    exact hacts.keyed (by rw [Scene.agenda_heard]; exact hs.popNext hp)

namespace Agenda

variable {a : Agenda}

/-- Where something is to come, it weighs something. -/
theorem weight_pos (h : a.size ≠ 0) : 0 < a.weight := by
  refine Nat.pos_of_ne_zero fun hzero => h ?_
  rw [size_eq_zero_iff, Std.ExtTreeMap.eq_empty_iff_forall_not_mem]
  exact not_mem_queue_of_weight hzero

theorem weight_of_size (h : a.size = 0) : a.weight = 0 := by
  rw [weight_eq, lane_of_size h]
  rfl

end Agenda

namespace Session

/-- Whether something is due by the deadline. -/
def DueBy (s : Session) (deadline : Duration) : Prop :=
  ∃ due, s.agenda.nextDue? = some due ∧ due ≤ deadline

/-- Handling events as long as one is due by the deadline, however many these are: the loop goes on
from a session in which `n` have been handled, and comes to an outcome. -/
inductive Loop (deadline : Duration) : Nat → Session → Outcome Session Nat → Prop
  | stop (hd : ¬s.DueBy deadline) : Loop deadline n s (.done n s)
  | idle (hd : s.DueBy deadline) (hs : s.step = .done false s') : Loop deadline n s (.done n s')
  | next (hd : s.DueBy deadline) (hs : s.step = .done true s') (h : Loop deadline (n + 1) s' o) :
    Loop deadline n s o
  | halt (hd : s.DueBy deadline) (hs : s.step = .overflow s') : Loop deadline n s (.overflow s')

variable {s s₁ s' : Session} {input : Input} {deadline : Duration} {m n budget handled : Nat}
  {more : Bool} {o o' : Outcome Session Nat}

/-! ## Counting steps -/

theorem steps_feed (s : Session) (input : Input) : (s.feed input).state.steps = s.steps := by
  rw [feed, Outcome.state_mapState]

theorem steps_setMode (s : Session) (mode : Mode) : (s.setMode mode).state.steps = s.steps := by
  have hfeed := s.steps_feed (.setMode mode)
  unfold setMode
  cases hf : s.feed (.setMode mode) with
  | done | overflow =>
    rw [hf] at hfeed
    exact hfeed

theorem steps_dispatch (s : Session) (due : Due) : (s.dispatch due).state.steps = s.steps := by
  unfold dispatch
  split
  · exact steps_feed ..
  · exact steps_feed ..
  · rw [Outcome.state_map]
    exact steps_setMode ..

/-- A step counts, whether it is done or stops. -/
theorem steps_step (h : s.agenda.size ≠ 0) : s.step.state.steps = s.steps + 1 := by
  cases hp : s.peers.env.agenda.popNext with
  | none => exact (h (Agenda.size_eq_zero_iff.mpr (Agenda.popNext_eq_none_iff.mp hp))).elim
  | some first =>
    obtain ⟨due, agenda⟩ := first
    simp only [step, hp, Outcome.state_map]
    exact steps_dispatch ..

/-! ## Sessions whose environment is shared -/

/-- What holds of every session, also where its environment is used behind the relay's back. -/
structure Steady (s : Session) : Prop where
  closed : s.peers.closed = []
  relay : s.relay.Sound
  agenda : s.agenda.Keyed

namespace Steady

theorem new (config : Config) : (Session.new config).Steady :=
  ⟨rfl, .new .., Agenda.Sound.new.toKeyed⟩

theorem feed (h : s.Steady) (hf : s.feed input = .done () s') :
    s'.Steady ∧ s'.agenda.weight < s.agenda.weight + Agenda.weightOf input := by
  obtain ⟨hset, r', actions, deliveries, hmove, hr, hacts⟩ := feed_done h.closed h.relay hf
  refine ⟨⟨Peers.closed_congr hset ▸ h.closed, ?_, hacts.keyed h.agenda⟩, ?_⟩
  · rw [hr]
    exact (hmove.sound h.relay).deliver deliveries
  · have hle := hacts.weight_le h.agenda fun _ => rfl
    exact Nat.lt_of_le_of_lt hle (Nat.add_lt_add_left (cost_lt_weightOf hmove) _)

theorem step (h : s.Steady) (hs : s.step = .done more s') : s'.Steady := by
  cases more with
  | false => exact step_idle hs ▸ h
  | true =>
    obtain ⟨hset, d, hd⟩ := step_done h.closed h.relay hs
    exact ⟨Peers.closed_congr hset ▸ h.closed, hd.sound h.relay, hd.keyed h.agenda⟩

/-- **Each step leaves less to come.** -/
theorem weight_step_lt (h : s.Steady) (hs : s.step = .done true s') :
    s'.agenda.weight < s.agenda.weight := by
  obtain ⟨-, d, hd⟩ := step_done h.closed h.relay hs
  exact hd.weight_lt h.agenda fun _ => rfl

end Steady

/-! ## Steps in a row -/

namespace Handles

theorem steps_eq (h : Handles n s s') : s'.steps = s.steps + n := by
  induction h with
  | nil => rfl
  | cons hs _ ih =>
    have hstep := steps_step (size_ne_zero_of_step hs)
    rw [hs] at hstep
    rw [ih, Nat.add_comm _ 1, ← Nat.add_assoc]
    exact congrArg (· + _) hstep

theorem steady (h : Handles n s s') (hs : s.Steady) : s'.Steady := h.invariant Steady.step hs

/-- **No more events are handled than the agenda weighs.** -/
theorem weight_le (h : Handles n s s') (hs : s.Steady) :
    n + s'.agenda.weight ≤ s.agenda.weight := by
  induction h with
  | nil => exact Nat.le_of_eq (Nat.zero_add _)
  | cons hstep _ ih =>
    have hlt := hs.weight_step_lt hstep
    have hrest := ih (hs.step hstep)
    omega

/-- The step that stops, after others, is one of those that were to come. -/
theorem steps_le_of_overflow (h : Handles n s s₁) (hs : s.Steady) (ho : s₁.step = .overflow s') :
    s'.steps ≤ s.steps + s.agenda.weight := by
  have hsize := size_ne_zero_of_overflow ho
  have hstep := steps_step hsize
  have hle := h.weight_le hs
  have hpos := Agenda.weight_pos hsize
  rw [ho, h.steps_eq] at hstep
  change s'.steps = _ at hstep
  omega

end Handles

theorem Steady.ended (h : s.Steady) : (s.ended n).Steady where
  closed := (Peers.closed_congr s.settings_ended).trans h.closed
  relay := by
    rw [relay_ended]
    exact h.relay
  agenda := by
    rw [agenda_ended]
    exact h.agenda

/-! ## The loop until a deadline -/

theorem not_dueBy_iff : ¬s.DueBy deadline ↔ ∀ slot ∈ s.agenda.queue, deadline < slot.due := by
  constructor
  · intro h slot hs
    cases hn : s.agenda.nextDue? with
    | none => exact (Agenda.not_mem_queue_of_nextDue hn slot hs).elim
    | some due =>
      have hfirst := Agenda.le_of_nextDue hn hs
      have hlate : ¬due ≤ deadline := fun hle => h ⟨due, hn, hle⟩
      rw [Duration.le_def] at hfirst hlate
      rw [Duration.lt_def]
      omega
  · rintro h ⟨due, hn, hle⟩
    obtain ⟨slot, hslot, rfl⟩ := Option.map_eq_some_iff.mp hn
    have hlt := h slot (Std.ExtTreeMap.minKey?_mem hslot)
    rw [Duration.le_def] at hle
    rw [Duration.lt_def] at hlt
    omega

/-- The loop comes to one outcome at most. -/
theorem Loop.deterministic (h : Loop deadline n s o) (h' : Loop deadline n s o') : o' = o := by
  induction h with
  | stop hd =>
    cases h' with
    | stop => rfl
    | idle hd' | next hd' | halt hd' => exact (hd hd').elim
  | idle hd hs =>
    cases h' with
    | stop hd' => exact (hd' hd).elim
    | idle _ hs' => cases hs.symm.trans hs'; rfl
    | next _ hs' | halt _ hs' => cases hs.symm.trans hs'
  | next hd hs _ ih =>
    cases h' with
    | stop hd' => exact (hd' hd).elim
    | next _ hs' hrest => cases hs.symm.trans hs'; exact ih hrest
    | idle _ hs' | halt _ hs' => cases hs.symm.trans hs'
  | halt hd hs =>
    cases h' with
    | stop hd' => exact (hd' hd).elim
    | halt _ hs' => cases hs.symm.trans hs'; rfl
    | idle _ hs' | next _ hs' => cases hs.symm.trans hs'

/-- The loop handles events until none is due, or one stops. -/
theorem Loop.handles (h : Loop deadline n s o) : ∃ m s₁, Handles m s s₁ ∧
    (o = .done (n + m) s₁ ∧ ¬s₁.DueBy deadline ∨
      ∃ s', o = .overflow s' ∧ s₁.step = .overflow s') := by
  induction h with
  | stop hd => exact ⟨0, _, .nil, .inl ⟨rfl, hd⟩⟩
  | idle hd hs =>
    cases step_idle hs
    refine ⟨0, _, .nil, .inl ⟨rfl, not_dueBy_iff.mpr fun slot hslot => ?_⟩⟩
    rw [Agenda.size_eq_zero_iff.mp (size_of_step hs)] at hslot
    exact (Std.ExtTreeMap.not_mem_empty hslot).elim
  | next hd hs _ ih =>
    obtain ⟨m, s₁, hm, hend⟩ := ih
    refine ⟨m + 1, s₁, .cons hs hm, ?_⟩
    rwa [Nat.add_right_comm, Nat.add_assoc] at hend
  | halt hd hs => exact ⟨0, _, .nil, .inr ⟨_, rfl, hs⟩⟩

/-- A session some time later, without anything having happened. -/
def wait (s : Session) (time : Duration) : Session :=
  s.mapEnv fun env => { env with agenda := env.agenda.advanceTo time }

namespace Steady

theorem wait (h : s.Steady) (time : Duration) : (s.wait time).Steady :=
  ⟨h.closed, h.relay, h.agenda.advanceTo time⟩

/-- A loop with a budget that the agenda does not outweigh is the loop without one. -/
theorem loop (h : s.Steady) (hb : s.agenda.weight ≤ budget) :
    Loop deadline handled s (runStepsUntil deadline budget handled s) := by
  induction budget generalizing s handled with
  | zero =>
    refine .stop (not_dueBy_iff.mpr fun slot hs => ?_)
    exact (Agenda.not_mem_queue_of_weight (Nat.eq_zero_of_le_zero hb) slot hs).elim
  | succ budget ih =>
    unfold runStepsUntil
    split
    · next hnone =>
      exact .stop (not_dueBy_iff.mpr fun slot hs =>
        (Agenda.not_mem_queue_of_nextDue hnone slot hs).elim)
    · next due hdue =>
      split
      · next hle =>
        have hd : s.DueBy deadline := ⟨due, hdue, hle⟩
        split
        · next s₁ hs =>
          have hlt := h.weight_step_lt hs
          exact .next hd hs (ih (h.step hs) (by omega))
        · next s₁ hs =>
          have hidle : Loop deadline handled s (.done handled s₁) := .idle hd hs
          rwa [step_idle hs] at hidle ⊢
        · next s₁ hs => exact .halt hd hs
      · next hlate =>
        refine .stop ?_
        rintro ⟨due', hdue', hle⟩
        cases hdue.symm.trans hdue'
        exact hlate hle

/-- **What is due by a deadline is handled by the loop**, which comes to an end, and then the clock
is moved to the deadline. -/
theorem runUntil_eq (h : s.Steady) (hl : Loop deadline 0 s o) :
    s.runUntil deadline = o.andThen fun n s => .done n (s.wait deadline) := by
  cases (h.loop (Nat.le_refl _)).deterministic hl
  rfl

/-- What a run until a deadline comes to. -/
theorem runUntil_cases (h : s.Steady) (deadline : Duration) : ∃ n s₁, Handles n s s₁ ∧
    (s.runUntil deadline = .done n (s₁.wait deadline) ∧ ¬s₁.DueBy deadline ∨
      ∃ s', s.runUntil deadline = .overflow s' ∧ s₁.step = .overflow s') := by
  have hloop : Loop deadline 0 s _ := h.loop (Nat.le_refl _)
  obtain ⟨n, s₁, hn, hend⟩ := hloop.handles
  refine ⟨n, s₁, hn, ?_⟩
  rw [h.runUntil_eq hloop]
  rcases hend with ⟨hdone, hlate⟩ | ⟨s', ho, hstep⟩
  · rw [hdone, Nat.zero_add]
    exact .inl ⟨rfl, hlate⟩
  · rw [ho]
    exact .inr ⟨s', rfl, hstep⟩

end Steady

end Session

end ModemRelay.Simulation
