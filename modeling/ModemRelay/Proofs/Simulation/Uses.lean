import ModemRelay.Proofs.Simulation.Chronicle
import ModemRelay.Proofs.Simulation.Loops
import ModemRelay.Proofs.Simulation.Operations

/-!
# Sessions whatever is done to them

Besides the operations on a session there are those on the environment that it shares, which can be
used behind the relay's back (`Session.Use`): events of any kind can be scheduled, cancelled or
taken off, and the clock can be moved past events that are queued. No matter what is done, a session
does not handle more events than what has been scheduled can lead to (`steps_useAll_le`).
-/

namespace ModemRelay.Simulation
open Relay

namespace Agenda

/-- How many events an operation can lead to. -/
def Operation.weight : Operation → Nat
  | schedule _ event => weightOf event
  | cancel _ | popNext | advanceTo _ => 0

theorem Keyed.weight_perform_le {a after : Agenda} {operation : Operation} {result : Result}
    (h : a.Keyed) (hop : operation.perform a = .done result after) :
    after.weight ≤ a.weight + operation.weight := by
  cases made_of_perform hop with
  | scheduled => exact Nat.le_of_eq h.weight_post
  | cancelled => exact h.weight_cancel_le _
  | popped hpop =>
    rw [weight_popNext hpop]
    exact Nat.le_add_left ..
  | idle | advanced => exact Nat.le_refl _

end Agenda

namespace Session

/-- Something that is done to a session, or to the environment that it shares. -/
inductive Use where
  | session (operation : Operation)
  | agenda (operation : Agenda.Operation)
  | record (trace : Trace)
  | draw (max : Duration)

def Use.perform : Use → Session → Outcome Session Unit
  | session operation, s => operation.perform s
  | agenda operation, s =>
    ((operation.perform s.agenda).map fun _ => ()).mapState fun agenda =>
      s.mapEnv ({ · with agenda })
  | record trace, s => .done () (s.mapEnv (·.record trace))
  | draw max, s => .done () (s.mapEnv fun env => (env.jitter max).2)

def Use.weight : Use → Nat
  | session operation => operation.weight
  | agenda operation => operation.weight
  | record _ | draw _ => 0

/-- Performs uses in order, up to one that stops on a time out of range. -/
def useAll : List Use → Session → Outcome Session Unit
  | [], s => .done () s
  | use :: rest, s => (use.perform s).andThen fun () s => useAll rest s

/-- How many events a session has handled and may yet handle. -/
def workload (s : Session) : Nat := s.steps + s.agenda.weight

variable {s s₁ s' : Session} {event : Input} {delay : Duration} {mode effective : Mode} {n : Nat}
  {operation : Operation} {use : Use} {uses : List Use}

namespace Steady

theorem setMode (h : s.Steady) (hrun : s.setMode mode = .done effective s') :
    s'.Steady ∧ s'.workload ≤ s.workload := by
  have hsteps := s.steps_setMode mode
  rw [hrun] at hsteps
  obtain ⟨_, s₁, hf, hend⟩ := Outcome.andThen_eq_done.mp hrun
  cases hend
  obtain ⟨h', hlt⟩ := h.feed hf
  refine ⟨⟨h'.closed, h'.relay, h'.agenda⟩, ?_⟩
  exact Nat.add_le_add (Nat.le_of_eq hsteps) (Nat.le_of_lt_succ hlt)

theorem schedule (h : s.Steady) (hrun : s.schedule delay event = .done () s') :
    s'.Steady ∧ s'.workload = s.workload + Agenda.weightOf event := by
  obtain ⟨due, -, rfl⟩ := schedule_done hrun
  refine ⟨⟨h.closed, h.relay, h.agenda.post⟩, ?_⟩
  exact (congrArg (s.steps + ·) h.agenda.weight_post).trans (Nat.add_assoc ..).symm

end Steady

/-- Handling events does not add to the workload. -/
theorem Handles.workload_le (hn : Handles n s s') (h : s.Steady) : s'.workload ≤ s.workload := by
  have hle := hn.weight_le h
  rw [workload, hn.steps_eq, workload]
  omega

theorem Settles.steady (hs : Settles s s') (h : s.Steady) :
    s'.Steady ∧ s'.workload = s.workload := by
  cases hs with
  | done => exact ⟨h, rfl⟩
  | ended =>
    refine ⟨h.ended, ?_⟩
    rw [workload, steps_ended, agenda_ended, workload]
  | waited => exact ⟨h.wait _, rfl⟩

theorem Operation.perform_steady (h : s.Steady) (hop : operation.perform s = .done () s') :
    s'.Steady ∧ s'.workload ≤ s.workload + operation.weight := by
  have hdoes := h.does operation
  generalize operation.perform s = o at hdoes hop
  cases hdoes with
  | asks =>
    obtain ⟨effective, hdone, -⟩ := Outcome.map_eq_done.mp hop
    exact h.setMode hdone
  | schedules _ hw =>
    obtain ⟨h', heq⟩ := h.schedule hop
    exact ⟨h', Nat.le_of_eq (hw ▸ heq)⟩
  | handles hn hs =>
    cases hop
    obtain ⟨h', heq⟩ := hs.steady (hn.steady h)
    exact ⟨h', heq ▸ Nat.le_trans (hn.workload_le h) (Nat.le_add_right ..)⟩
  | halts => cases hop

/-- An operation that stops has not done more than was to come. -/
theorem Operation.steps_le_of_overflow (h : s.Steady) (hop : operation.perform s = .overflow s') :
    s'.steps ≤ s.workload := by
  have hdoes := h.does operation
  generalize operation.perform s = o at hdoes hop
  cases hdoes with
  | @asks mode =>
    have hsteps := s.steps_setMode mode
    rw [Outcome.map_eq_overflow.mp hop] at hsteps
    exact Nat.le_trans (Nat.le_of_eq hsteps) (Nat.le_add_right ..)
  | schedules =>
    obtain ⟨env, -, rfl⟩ := Outcome.mapState_eq_overflow.mp hop
    exact Nat.le_add_right ..
  | handles => cases hop
  | halts hn ho =>
    cases hop
    exact hn.steps_le_of_overflow h ho

theorem Use.perform_steady (h : s.Steady) (hu : use.perform s = .done () s') :
    s'.Steady ∧ s'.workload ≤ s.workload + use.weight := by
  cases use with
  | session operation => exact operation.perform_steady h hu
  | agenda operation =>
    obtain ⟨agenda, hmap, rfl⟩ := Outcome.mapState_eq_done.mp hu
    obtain ⟨result, hop, -⟩ := Outcome.map_eq_done.mp hmap
    have hkeyed : agenda.Keyed := h.agenda.made (Agenda.made_of_perform hop)
    refine ⟨⟨h.closed, h.relay, hkeyed⟩, ?_⟩
    have hle := h.agenda.weight_perform_le hop
    exact Nat.le_trans (Nat.add_le_add_left hle _) (Nat.le_of_eq (Nat.add_assoc ..).symm)
  | record trace =>
    cases hu
    exact ⟨⟨h.closed, h.relay, h.agenda⟩, Nat.le_refl _⟩
  | draw max =>
    cases hu
    have hagenda : (s.peers.env.jitter max).2.agenda = s.agenda := by
      obtain ⟨delay, random, hj, -⟩ := s.peers.env.jitter_eq max
      rw [hj]
      rfl
    refine ⟨⟨h.closed, h.relay, hagenda ▸ h.agenda⟩, ?_⟩
    exact Nat.le_of_eq (congrArg (s.steps + ·.weight) hagenda)

theorem Use.steps_le_of_overflow (h : s.Steady) (hu : use.perform s = .overflow s') :
    s'.steps ≤ s.workload := by
  cases use with
  | session operation => exact operation.steps_le_of_overflow h hu
  | agenda operation =>
    obtain ⟨agenda, -, rfl⟩ := Outcome.mapState_eq_overflow.mp hu
    exact Nat.le_add_right ..
  | record | draw => cases hu

/-- **Whatever is done to a session**, it stays steady. -/
theorem steady_useAll (h : s.Steady) (hrun : useAll uses s = .done () s') : s'.Steady := by
  induction uses generalizing s with
  | nil =>
    cases hrun
    exact h
  | cons use rest ih =>
    obtain ⟨_, s₁, hu, hrest⟩ := Outcome.andThen_eq_done.mp hrun
    exact ih (use.perform_steady h hu).1 hrest

/-- **Whatever is done to a session**, it does not handle more events than what is scheduled can
lead to. -/
theorem steps_useAll_le (h : s.Steady) (uses : List Use) :
    (useAll uses s).state.steps ≤ s.workload + (uses.map Use.weight).sum := by
  induction uses generalizing s with
  | nil => exact Nat.le_add_right ..
  | cons use rest ih =>
    rw [useAll, List.map_cons, List.sum_cons, ← Nat.add_assoc]
    cases hu : use.perform s with
    | done _ s₁ =>
      obtain ⟨h', hle⟩ := use.perform_steady h hu
      exact Nat.le_trans (ih h') (Nat.add_le_add_right hle _)
    | overflow s₁ =>
      have hle := use.steps_le_of_overflow h hu
      exact Nat.le_trans hle (Nat.le_trans (Nat.le_add_right ..) (Nat.le_add_right ..))

/-- What can be relied on about how much a session does. -/
structure Dwindling (s : Session) : Prop where
  /-- A step that does not stop leaves less to come. -/
  step : s.agenda.size ≠ 0 →
    (∃ s', s.step = .done true s' ∧ s'.agenda.weight < s.agenda.weight) ∨
      ∃ s', s.step = .overflow s'
  /-- No more events are handled in a row than the agenda weighs. -/
  handled : ∀ n s', Handles n s s' → n + s'.agenda.weight ≤ s.agenda.weight
  /-- The loop until a deadline comes to an end, and only to what `runUntil` says. -/
  ends : ∀ deadline, ∃ o, (∀ o', Loop deadline 0 s o' ↔ o' = o) ∧
    s.runUntil deadline = o.andThen fun n s' => .done n (s'.wait deadline)
  /-- A run counts the events that it handles. -/
  counted : ∀ n s', s.run = .done n s' ∨ (∃ deadline, s.runUntil deadline = .done n s') →
    s'.steps = s.steps + n ∧ n + s'.agenda.weight ≤ s.agenda.weight
  /-- Whatever is done, only what is scheduled besides adds to what is handled at most. -/
  used : ∀ uses, (useAll uses s).state.steps ≤
    s.steps + s.agenda.weight + (uses.map Use.weight).sum

theorem Steady.dwindling (h : s.Steady) : s.Dwindling where
  step hsize := by
    cases hs : s.step with
    | done more s₁ =>
      cases more with
      | true => exact .inl ⟨s₁, rfl, h.weight_step_lt hs⟩
      | false => exact (hsize (size_of_step hs)).elim
    | overflow s₁ => exact .inr ⟨s₁, rfl⟩
  handled n s' hn := hn.weight_le h
  ends deadline := by
    have hloop : Loop deadline 0 s _ := h.loop (Nat.le_refl _)
    refine ⟨_, fun o' => ⟨hloop.deterministic, fun heq => ?_⟩, h.runUntil_eq hloop⟩
    exact heq ▸ hloop
  counted n s' hrun := by
    rcases hrun with hrun | ⟨deadline, hrun⟩
    · obtain ⟨m, s₁, hm, ⟨hdone, -⟩ | ⟨s₂, ho, -⟩⟩ := s.run_cases
      · cases hdone.symm.trans hrun
        rw [steps_ended, agenda_ended]
        exact ⟨hm.steps_eq, hm.weight_le h⟩
      · cases ho.symm.trans hrun
    · obtain ⟨m, s₁, hm, ⟨hdone, -⟩ | ⟨s₂, ho, -⟩⟩ := h.runUntil_cases deadline
      · cases hdone.symm.trans hrun
        exact ⟨hm.steps_eq, hm.weight_le h⟩
      · cases ho.symm.trans hrun
  used := steps_useAll_le h

end Session

end ModemRelay.Simulation
