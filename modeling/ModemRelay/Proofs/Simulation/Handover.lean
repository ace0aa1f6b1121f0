import ModemRelay.Proofs.Simulation.Streams

/-!
# What is observed before the pass-through mode

The transcript tells when a session enters the pass-through mode. What had been observed by then
(`Scene.beforeHandover`) is fixed with that turn (`ActsAll.beforeHandover_eq`), and later turns
leave it as it is (`ActsAll.beforeHandover_later`).
-/

namespace ModemRelay.Simulation
open Relay

/-- Whether an observation is that the pass-through mode has been entered. -/
def Observed.isHandover (o : Observed) : Bool := o.trace = .modeChanged .passThrough .passThrough

theorem Observed.isHandover_of_isRequested {o : Observed} (h : o.trace.isRequested = true) :
    o.isHandover = false := by
  refine decide_eq_false fun heq => ?_
  rw [heq] at h
  cases h

namespace Scene

/-- A scene with what had been observed before the pass-through mode was entered. -/
def beforeHandover (σ : Scene) : Scene :=
  { σ with transcript := σ.transcript.takeWhile (!·.isHandover) }

/-- How many answers of the modem the client does not get: one for each answer of the model that
came before the pass-through mode was entered, except those that a timer has fired for. -/
def withheld (σ : Scene) : Nat :=
  (σ.beforeHandover.arrivals .model).length - σ.beforeHandover.fired.length

/-- Whether the pass-through mode has been entered. -/
def Entered (σ : Scene) : Prop := ∃ o ∈ σ.transcript, o.isHandover = true

variable {σ σ' : Scene} {d : Due} {agenda : Agenda} {actions : List Action} {e : Endpoint}
  {new : List Observed}
  {answer? : Endpoint → String → Option String}

theorem arrivals_congr (h : σ'.transcript = σ.transcript) : σ'.arrivals e = σ.arrivals e := by
  rw [arrivals, arrivals, h]

theorem fired_congr (h : σ'.transcript = σ.transcript) : σ'.fired = σ.fired := by
  rw [fired, fired, h]

theorem withheld_congr (h : σ'.beforeHandover.transcript = σ.beforeHandover.transcript) :
    σ'.withheld = σ.withheld := by
  rw [withheld, withheld, arrivals_congr h, fired_congr h]

theorem not_entered : ¬σ.Entered ↔ ∀ o ∈ σ.transcript, (!o.isHandover) = true := by
  simp [Entered]

theorem Entered.append (h : σ.Entered) (ht : σ'.transcript = σ.transcript ++ new) :
    σ'.Entered := by
  obtain ⟨o, ho, hover⟩ := h
  exact ⟨o, ht ▸ List.mem_append_left _ ho, hover⟩

/-- What comes later changes nothing about what was before. -/
theorem Entered.transcript_beforeHandover (h : σ.Entered)
    (ht : σ'.transcript = σ.transcript ++ new) :
    σ'.beforeHandover.transcript = σ.beforeHandover.transcript := by
  have hshort : (σ.transcript.takeWhile (!·.isHandover)).length ≠ σ.transcript.length := by
    intro hlen
    have hall := List.all_takeWhile (p := (!·.isHandover)) (l := σ.transcript)
    rw [(List.takeWhile_prefix _).eq_of_length hlen, List.all_eq_true] at hall
    exact not_entered.mpr hall h
  rw [beforeHandover, beforeHandover, ht, List.takeWhile_append, if_neg hshort]

/-- Once the pass-through mode is entered, all until then was before. -/
theorem transcript_beforeHandover_handled (h : ¬σ.Entered) :
    (σ.handled (.setMode .passThrough) .passThrough).beforeHandover.transcript =
      σ.transcript := by
  rw [beforeHandover, handled, record, List.takeWhile_append_of_pos (not_entered.mp h),
    List.takeWhile_cons_of_neg (by simp [Observed.isHandover]), List.append_nil]

theorem entered_handled : (σ.handled (.setMode .passThrough) .passThrough).Entered :=
  ⟨_, List.mem_append_right _ List.mem_cons_self, rfl⟩

theorem transcript_handled (σ : Scene) (input : Input) (mode : Mode) :
    ∃ new, (σ.handled input mode).transcript = σ.transcript ++ new := by
  unfold handled
  split
  · exact ⟨_, rfl⟩
  · exact ⟨[], (List.append_nil _).symm⟩

/-- What is written down of an event is no change of the mode. -/
private theorem transcript_heard (σ : Scene) (d : Due) :
    ∃ new, (σ.heard d).transcript = σ.transcript ++ new ∧ ∀ o ∈ new, o.isHandover = false := by
  unfold heard
  cases d.event with
  | line | timer => exact ⟨_, rfl, fun o ho => List.mem_singleton.mp ho ▸ rfl⟩
  | setMode => exact ⟨[], (List.append_nil _).symm, by simp⟩

private theorem ActsAll.transcript_turn
    (hacts : ActsAll answer? actions (heard { σ with agenda } d) σ') :
    ∃ new, σ'.transcript = σ.transcript ++ new ∧ ∀ o ∈ new, o.isHandover = false := by
  obtain ⟨new, ht, hnew⟩ := hacts.transcript_eq
  obtain ⟨first, hfirst, hheard⟩ := transcript_heard { σ with agenda } d
  refine ⟨first ++ new, by rw [ht, hfirst, List.append_assoc], ?_⟩
  exact List.forall_mem_append.mpr
    ⟨hheard, fun o ho => Observed.isHandover_of_isRequested (hnew o ho)⟩

/-- The pass-through mode is not entered until an event says so. -/
theorem ActsAll.not_entered (hacts : ActsAll answer? actions (heard { σ with agenda } d) σ')
    (h : ¬σ.Entered) : ¬σ'.Entered := by
  obtain ⟨new, ht, hnew⟩ := hacts.transcript_turn
  rw [Scene.not_entered] at h ⊢
  rw [ht]
  exact List.forall_mem_append.mpr ⟨h, by simpa using hnew⟩

/-- **What was before the pass-through mode is what had been until the turn that enters it.** -/
theorem ActsAll.beforeHandover_eq (hacts : ActsAll answer? actions (heard { σ with agenda } d) σ')
    (hs : σ.agenda.Sound) (hp : σ.agenda.popNext = some (d, agenda)) (h : ¬σ.Entered)
    (hd : d.event = .setMode .passThrough) :
    (∀ e, (σ'.handled d.event .passThrough).beforeHandover.arrivals e = σ.arrivals e) ∧
      (σ'.handled d.event .passThrough).beforeHandover.fired = σ.fired := by
  have hbefore := transcript_beforeHandover_handled (hacts.not_entered h)
  rw [← hd] at hbefore
  constructor
  · intro e
    rw [arrivals_congr hbefore, hacts.arrivals_turn hs hp, hd]
    exact List.append_nil _
  · rw [fired_congr hbefore, hacts.fired_turn, hd]
    exact List.append_nil _

/-- **What was before the pass-through mode stays as it is.** -/
theorem ActsAll.beforeHandover_later
    (hacts : ActsAll answer? actions (heard { σ with agenda } d) σ') (h : σ.Entered)
    (input : Input) (mode : Mode) :
    (σ'.handled input mode).Entered ∧
      (σ'.handled input mode).beforeHandover.transcript = σ.beforeHandover.transcript := by
  obtain ⟨new, ht, -⟩ := hacts.transcript_turn
  obtain ⟨last, hlast⟩ := σ'.transcript_handled input mode
  rw [ht, List.append_assoc] at hlast
  exact ⟨h.append hlast, h.transcript_beforeHandover hlast⟩

end Scene

end ModemRelay.Simulation
