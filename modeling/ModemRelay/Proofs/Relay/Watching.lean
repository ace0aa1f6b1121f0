import ModemRelay.Proofs.Relay.Move
import ModemRelay.Relay.Host

/-!
# Surroundings that are watched

What a relay asks of its surroundings shows in surroundings that keep it (`Host.watched`): they do
all that the given ones do, and keep what a view sees of each action that they are asked for,
whether or not a line is then taken. They do so just where the given ones do, and what they have
kept is what the view sees of the actions (`performAll_watched_iff`).
-/

namespace ModemRelay.Relay

variable {σ β : Type} {host : Host σ} {view : Action → Option β} {s s' : σ} {seen seen' : List β}
  {d d' : Deliveries}

/-- The same surroundings, which keep what a view sees of the actions that they are asked for. -/
def Host.watched (host : Host σ) (view : Action → Option β) : Host (σ × List β) where
  send e line s := (host.send e line s.1).mapState (·, s.2 ++ (view (.send e line)).toList)
  nextTimer s := host.nextTimer s.1
  arm delay x s := (host.arm delay x s.1).mapState (·, s.2 ++ (view (.arm delay x)).toList)
  cancel timer s := (host.cancel timer s.1, s.2 ++ (view (.cancel timer)).toList)
  report failure s := (host.report failure s.1, s.2 ++ (view (.report failure)).toList)
  note notice s := (host.note notice s.1, s.2)

/-- The view sees nothing of what only writes to the log. -/
structure Action.Outward (view : Action → Option β) : Prop where
  note : ∀ notice, view (.note notice) = none
  undeliverable : ∀ line mode, view (.undeliverable line mode) = none

/-- All that is asked of the surroundings but to write to the log. -/
def Action.asked? : Action → Option Action
  | .note _ | .undeliverable .. => none
  | action => some action

theorem Action.outward_asked? : Action.Outward Action.asked? := ⟨fun _ => rfl, fun _ _ => rfl⟩

theorem Action.Outward.filterMap_requests (hv : Action.Outward view) (actions : List Action) :
    (requests actions).filterMap view = actions.filterMap view := by
  rw [requests, List.filterMap_filter]
  congr 1
  funext action
  cases action with
  | note notice => exact (hv.note notice).symm
  | _ => rfl

theorem perform_watched_eq (hv : Action.Outward view) (action : Action) (d : Deliveries) (s : σ)
    (seen : List β) :
    perform (host.watched view) action d (s, seen) =
      (perform host action d s).mapState fun state =>
        (state.1, (state.2, seen ++ (view action).toList)) := by
  cases action with
  | send target line =>
    simp only [perform, Host.watched]
    cases host.send target line s with
    | done reply s' => cases reply <;> rfl
    | overflow s' => rfl
  | arm delay x =>
    simp only [perform, Host.watched]
    cases host.arm delay x s <;> rfl
  | cancel | report => rfl
  | note notice =>
    rw [hv.note, Option.toList_none, List.append_nil]
    rfl
  | undeliverable line mode =>
    rw [hv.undeliverable, Option.toList_none, List.append_nil]
    rfl

/-- Surroundings that are watched do as they did, and keep what the view sees. -/
theorem performAll_watched_iff (hv : Action.Outward view) {actions : List Action} :
    performAll (host.watched view) actions d (s, seen) = .done () (d', (s', seen')) ↔
      performAll host actions d s = .done () (d', s') ∧ seen' = seen ++ actions.filterMap view := by
  induction actions generalizing d s seen with
  | nil => simp [performAll, eq_comm, and_assoc]
  | cons action rest ih =>
    rw [performAll, performAll, perform_watched_eq hv]
    cases perform host action d s with
    | done _ state =>
      rw [Outcome.mapState, ih, List.append_assoc, filterMap_cons_toList]
    | overflow state => simp [Outcome.mapState]

theorem performAll_watched (hv : Action.Outward view) {actions : List Action}
    (h : performAll (host.watched view) actions d (s, seen) = .done () (d', (s', seen'))) :
    seen' = seen ++ actions.filterMap view :=
  ((performAll_watched_iff hv).mp h).2

variable {r r' : Relay} {input : Input}

/-- A call leaves the relay that the step leaves, but for the lines counted, and the surroundings
have kept what the view sees of all that the step asks for. -/
theorem handle_watched (hv : Action.Outward view)
    (h : handle (host.watched view) input r (s, seen) = .done () (r', (s', seen'))) :
    ∃ timer deliveries, r' = { (r.step timer input).1 with deliveries } ∧
      seen' = seen ++ (r.step timer input).2.filterMap view := by
  obtain ⟨deliveries, hp, hr⟩ := handle_done h
  exact ⟨_, deliveries, hr, performAll_watched hv hp⟩

/-- What has been seen before a call makes no difference to it. -/
theorem handle_watched_of_nil (hv : Action.Outward view)
    (h : handle (host.watched view) input r (s, seen) = .done () (r', (s', seen'))) :
    ∃ new, handle (host.watched view) input r (s, []) = .done () (r', (s', new)) ∧
      seen' = seen ++ new := by
  obtain ⟨deliveries, hp, rfl⟩ := handle_done h
  obtain ⟨hplain, hseen⟩ := (performAll_watched_iff hv).mp hp
  exact ⟨_, handle_of_performAll ((performAll_watched_iff hv).mpr ⟨hplain, rfl⟩), hseen⟩

end ModemRelay.Relay
