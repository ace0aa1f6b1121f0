import Mathlib.Algebra.Order.BigOperators.Group.List
import Mathlib.Algebra.Order.Ring.Nat
import ModemRelay.Proofs.Simulation.World

/-!
# How much is still to come

The weight of an agenda bounds the events that its events lead to, themselves included. What a step
asks for weighs less than the event that leads to it (`cost_lt_weightOf`), so each turn takes off
more weight than it adds (`Turn.weight_lt`).
-/

namespace ModemRelay.Simulation
open Relay

namespace Agenda

variable {a a' : Agenda} {due : Duration} {event : Input} {key : Nat} {d : Due} {slot : Slot}

theorem weightOf_pos (event : Input) : 0 < weightOf event := by
  unfold weightOf
  split <;> decide

theorem foldl_add_eq_sum (f : α → Nat) (l : List α) (n : Nat) :
    l.foldl (fun sum x => sum + f x) n = n + (l.map f).sum := by
  induction l generalizing n with
  | nil => rfl
  | cons x l ih => rw [List.foldl_cons, ih, List.map_cons, List.sum_cons, Nat.add_assoc]

theorem weight_eq (a : Agenda) : a.weight = ((a.lane some).map fun x => weightOf x.2).sum := by
  rw [weight, Std.ExtTreeMap.foldl_eq_foldl_toList, foldl_add_eq_sum, Nat.zero_add, lane]
  simp

theorem Keyed.weight_post (h : a.Keyed) :
    (a.post due event).weight = a.weight + weightOf event := by
  rw [weight_eq, (h.perm_lane_post.map fun x => weightOf x.2).sum_nat, weight_eq]
  simp

theorem Keyed.weight_cancel_le (h : a.Keyed) (key : Nat) : (a.cancel key).2.weight ≤ a.weight := by
  rw [weight_eq, weight_eq, h.lane_cancel]
  exact (List.filter_sublist.map _).sum_le_sum fun _ _ => Nat.zero_le _

theorem weight_popNext (h : a.popNext = some (d, a')) :
    a.weight = weightOf d.event + a'.weight := by
  rw [weight_eq, weight_eq, lane_popNext h some]
  rfl

/-- Every event weighs something. -/
theorem not_mem_queue_of_weight (h : a.weight = 0) (slot : Slot) : slot ∉ a.queue := by
  intro hmem
  obtain ⟨event, hq⟩ := mem_queue_iff.mp hmem
  rw [weight_eq, List.sum_eq_zero_iff] at h
  have hzero := h _ (List.mem_map_of_mem (mem_lane.mpr ⟨event, hq, rfl⟩))
  exact Nat.ne_of_gt (weightOf_pos event) hzero

theorem not_mem_queue_of_nextDue (h : a.nextDue? = none) (slot : Slot) : slot ∉ a.queue := by
  rw [nextDue?, Option.map_eq_none_iff, Std.ExtTreeMap.minKey?_eq_none_iff] at h
  rw [h]
  exact Std.ExtTreeMap.not_mem_empty

theorem le_of_nextDue (h : a.nextDue? = some due) (hs : slot ∈ a.queue) : due ≤ slot.due := by
  obtain ⟨first, hfirst, rfl⟩ := Option.map_eq_some_iff.mp h
  have hle := (Std.ExtTreeMap.minKey?_eq_some_iff_mem_and_forall.mp hfirst).2 slot hs
  rw [Slot.compare_isLE] at hle
  rw [Duration.le_def]
  omega

end Agenda

/-- The weight of the event that an action may schedule. -/
def cost : Action → Nat
  | .send .modem _ => 1
  | .send .model _ => 2
  | .arm _ _ => 1
  | _ => 0

/-- What a step schedules weighs less than the event that leads to it. -/
theorem cost_lt_weightOf {r r' : Relay} {handle : TimerHandle} {input : Input}
    {actions : List Action} (m : Move r handle input r' actions) :
    (actions.map cost).sum < Agenda.weightOf input := by
  have hverdict (modem model : String) : ((verdict modem model).map cost).sum = 0 := by
    unfold verdict
    split <;> rfl
  cases m with
  | modemPaired | modelPaired => simp [hverdict, cost, Agenda.weightOf]
  | @modeTaken next =>
    have hdrain : ((r.pending.toList.flatMap (drainRequests next)).map cost).sum = 0 := by
      rw [List.sum_eq_zero_iff]
      intro n hn
      obtain ⟨a, ha, rfl⟩ := List.mem_map.mp hn
      rcases of_mem_drain ha with ⟨_, rfl⟩ | ⟨_, rfl⟩ | ⟨_, rfl⟩ <;> rfl
    rw [hdrain]
    exact Agenda.weightOf_pos _
  | _ => simp [cost, Agenda.weightOf]

namespace Scene

variable {σ σ' : Scene} {a : Action} {actions : List Action}
  {answer? : Endpoint → String → Option String}

theorem Acts.weight_le (h : Acts answer? a σ σ') (hs : σ.agenda.Keyed)
    (hq : ∀ line, answer? .modemManager line = none) :
    σ'.agenda.weight ≤ σ.agenda.weight + cost a := by
  cases h with
  | silent | reported | undelivered => exact Nat.le_add_right ..
  | @asked target line answer due _ ha =>
    have hpost : (σ.agenda.post due (.line target answer)).weight = _ := hs.weight_post
    cases target with
    | modemManager => simp [hq] at ha
    | modem | model => exact Nat.le_of_eq hpost
  | armed => exact Nat.le_of_eq hs.weight_post
  | cancelled => exact hs.weight_cancel_le _

theorem ActsAll.weight_le (h : ActsAll answer? actions σ σ') (hs : σ.agenda.Keyed)
    (hq : ∀ line, answer? .modemManager line = none) :
    σ'.agenda.weight ≤ σ.agenda.weight + (actions.map cost).sum := by
  induction h with
  | nil => exact Nat.le_refl _
  | cons ha _ ih =>
    have hfirst := ha.weight_le hs hq
    have hrest := ih (ha.keyed hs)
    rw [List.map_cons, List.sum_cons]
    omega

end Scene

variable {r r' : Relay} {σ σ' : Scene} {d : Due} {answer? : Endpoint → String → Option String}

/-- **Each turn leaves less to come.** -/
theorem Turn.weight_lt (h : Turn answer? r σ d r' σ') (hs : σ.agenda.Keyed)
    (hq : ∀ line, answer? .modemManager line = none) : σ'.agenda.weight < σ.agenda.weight := by
  cases h with
  | @intro agenda r₁ actions σ₁ hp hm hacts deliveries =>
    have hcost := cost_lt_weightOf hm
    have hheard := Agenda.weight_popNext hp
    have hle := hacts.weight_le (by rw [Scene.agenda_heard]; exact hs.popNext hp) hq
    rw [Scene.agenda_heard] at hle
    rw [Scene.agenda_handled]
    dsimp only at hle
    omega

end ModemRelay.Simulation
