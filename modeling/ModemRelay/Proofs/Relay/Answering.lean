import ModemRelay.Proofs.Relay.Watching
import ModemRelay.Relay.Journal

/-!
# Surroundings that answer alike

What the surroundings answer is a matter of what they have been asked for, and not of the log: what
counts of their state is what a view of it shows (`Host.AnswersBy`). Two relays that ask the same of
them are then answered alike, in states that show the same (`Host.AnswersBy.handle`), also if one of
them asks for more of what changes nothing that is shown (`Host.Ignores`).
-/

namespace ModemRelay.Relay

variable {σ τ β : Type} {host : Host σ} {shown : σ → τ} {s s' : σ}

/-- The surroundings answer by what `shown` tells of their state, which is theirs to change in
answering, and which the log does not change. -/
structure Host.AnswersBy (host : Host σ) (shown : σ → τ) : Prop where
  send (e : Endpoint) (line : String) {s s' : σ} : shown s = shown s' →
    (host.send e line s).mapState shown = (host.send e line s').mapState shown
  nextTimer {s s' : σ} : shown s = shown s' → host.nextTimer s = host.nextTimer s'
  arm (delay : Duration) (x : ExchangeId) {s s' : σ} : shown s = shown s' →
    (host.arm delay x s).mapState shown = (host.arm delay x s').mapState shown
  cancel (timer : TimerHandle) {s s' : σ} : shown s = shown s' →
    shown (host.cancel timer s) = shown (host.cancel timer s')
  report (f : Failure) {s s' : σ} : shown s = shown s' →
    shown (host.report f s) = shown (host.report f s')
  note (notice : Notice) (s : σ) : shown (host.note notice s) = shown s

/-- Nothing that is shown of the surroundings changes by an action of the kind. -/
def Host.Ignores (host : Host σ) (shown : σ → τ) (kind : Action → Bool) : Prop :=
  ∀ action, kind action = true → ∀ d s,
    (perform host action d s).mapState (Prod.map id shown) = .done () (d, shown s)

theorem Host.ignores_nothing : host.Ignores shown fun _ => false := fun _ hk => nomatch hk

theorem performAll_cons (action : Action) (rest : List Action) (d : Deliveries) (s : σ) :
    performAll host (action :: rest) d s =
      (perform host action d s).andThen fun _ state => performAll host rest state.1 state.2 := by
  rw [performAll]
  cases perform host action d s <;> rfl

namespace Host.AnswersBy

theorem perform_congr (h : host.AnswersBy shown) (action : Action) (d : Deliveries)
    (hs : shown s = shown s') :
    (perform host action d s).mapState (Prod.map id shown) =
      (perform host action d s').mapState (Prod.map id shown) := by
  cases action with
  | send e line =>
    have hsend := h.send e line hs
    simp only [perform]
    cases hleft : host.send e line s with
    | done reply s₁ =>
      rw [hleft] at hsend
      obtain ⟨s₂, hright, hshown⟩ := Outcome.mapState_eq_done.mp hsend.symm
      rw [hright]
      cases reply with
      | accepted => simp [Outcome.mapState, hshown]
      | refused cause => simp [Outcome.mapState, h.note, hshown]
    | overflow s₁ =>
      rw [hleft] at hsend
      obtain ⟨s₂, hright, hshown⟩ := Outcome.mapState_eq_overflow.mp hsend.symm
      rw [hright]
      simp [Outcome.mapState, hshown]
  | arm delay x =>
    exact Outcome.mapState_mapState_congr (h.arm delay x hs) fun _ _ => congrArg (d, ·)
  | undeliverable line mode => simp [perform, Outcome.mapState, h.note, hs]
  | cancel timer => simp [perform, Outcome.mapState, h.cancel timer hs]
  | report failure => simp [perform, Outcome.mapState, h.report failure hs]
  | note notice => simp [perform, Outcome.mapState, h.note, hs]

theorem performAll_congr (h : host.AnswersBy shown) (actions : List Action) (d : Deliveries)
    (hs : shown s = shown s') :
    (performAll host actions d s).mapState (Prod.map id shown) =
      (performAll host actions d s').mapState (Prod.map id shown) := by
  induction actions generalizing d s s' with
  | nil => simp [performAll, Outcome.mapState, hs]
  | cons action rest ih =>
    rw [performAll_cons, performAll_cons]
    refine Outcome.mapState_andThen_congr (h.perform_congr action d hs) fun _ t t' ht => ?_
    obtain ⟨hd, hshown⟩ := Prod.mk.inj ht
    rw [show t.1 = t'.1 from hd]
    exact ih t'.1 hshown

/-- Actions that change nothing that is shown can be left out. -/
theorem performAll_filter (h : host.AnswersBy shown) {kind : Action → Bool}
    (hk : host.Ignores shown kind) (actions : List Action) (d : Deliveries) (s : σ) :
    (performAll host actions d s).mapState (Prod.map id shown) =
      (performAll host (actions.filter (!kind ·)) d s).mapState (Prod.map id shown) := by
  induction actions generalizing d s with
  | nil => rfl
  | cons action rest ih =>
    by_cases ha : kind action = true
    · rw [List.filter_cons_of_neg (by simp [ha]), ← ih, performAll_cons]
      obtain ⟨state, hact, hstate⟩ := Outcome.mapState_eq_done.mp (hk action ha d s)
      obtain ⟨hd, hshown⟩ := Prod.mk.inj hstate
      rw [hact, Outcome.andThen, show state.1 = d from hd]
      exact h.performAll_congr rest d hshown
    · rw [List.filter_cons_of_pos (by simp [ha]), performAll_cons, performAll_cons]
      refine Outcome.mapState_andThen_congr rfl fun _ t t' ht => ?_
      obtain ⟨hd, hshown⟩ := Prod.mk.inj ht
      rw [show t.1 = t'.1 from hd, ih]
      exact h.performAll_congr _ _ hshown

/-- **Relays that ask for the same are answered alike**, whatever else they ask for that is
ignored. -/
theorem handle (h : host.AnswersBy shown) {kind : Action → Bool} (hk : host.Ignores shown kind)
    {r r' r₁ : Relay} {input input' : Input} {s₁ : σ} (hs : shown s = shown s')
    (hd : r.deliveries = r'.deliveries)
    (hasked : (r.step (host.nextTimer s) input).2.filter (!kind ·) =
      (r'.step (host.nextTimer s) input').2.filter (!kind ·))
    (hcall : Relay.handle host input r s = .done () (r₁, s₁)) :
    ∃ deliveries s₁', r₁ = { (r.step (host.nextTimer s) input).1 with deliveries } ∧
      Relay.handle host input' r' s' =
        .done () ({ (r'.step (host.nextTimer s) input').1 with deliveries }, s₁') ∧
      shown s₁ = shown s₁' := by
  obtain ⟨deliveries, hp, hr⟩ := handle_done hcall
  have hsame := h.performAll_filter hk (r.step (host.nextTimer s) input).2 r.deliveries s
  rw [hp, hasked, hd, h.performAll_congr _ _ hs, ← h.performAll_filter hk] at hsame
  obtain ⟨⟨d, s₁'⟩, hp', hstate⟩ := Outcome.mapState_eq_done.mp hsame.symm
  obtain ⟨rfl, hshown⟩ := Prod.mk.inj hstate
  rw [h.nextTimer hs] at hp' hr ⊢
  exact ⟨d, s₁', hr, handle_of_performAll hp', hshown.symm⟩

/-- Surroundings that are watched answer as they did, and show what has been seen of them. -/
theorem watched (h : host.AnswersBy shown) (view : Action → Option β) :
    (host.watched view).AnswersBy (Prod.map shown id) where
  send e line s s' hs := by
    obtain ⟨hshown, hseen⟩ := Prod.mk.inj hs
    exact Outcome.mapState_mapState_congr (h.send e line hshown) fun _ _ heq =>
      Prod.ext heq (congrArg (· ++ _) hseen)
  nextTimer hs := h.nextTimer (Prod.mk.inj hs).1
  arm delay x s s' hs := by
    obtain ⟨hshown, hseen⟩ := Prod.mk.inj hs
    exact Outcome.mapState_mapState_congr (h.arm delay x hshown) fun _ _ heq =>
      Prod.ext heq (congrArg (· ++ _) hseen)
  cancel timer s s' hs := by
    obtain ⟨hshown, hseen⟩ := Prod.mk.inj hs
    exact Prod.ext (h.cancel timer hshown) (congrArg (· ++ _) hseen)
  report f s s' hs := by
    obtain ⟨hshown, hseen⟩ := Prod.mk.inj hs
    exact Prod.ext (h.report f hshown) (congrArg (· ++ _) hseen)
  note notice s := Prod.ext (h.note notice s.1) rfl

end Host.AnswersBy

/-- What a journal's answers depend on. -/
theorem Journal.host_answersBy :
    Journal.host.AnswersBy fun j => (j.nextTimer, j.refusing) where
  send e line j j' hj := by
    obtain ⟨hnext, hrefusing⟩ := Prod.mk.inj hj
    simp only [Journal.host, hrefusing]
    by_cases he : e ∈ j'.refusing <;> simp [he, Outcome.mapState, Journal.write, hnext, hrefusing]
  nextTimer hj := (Prod.mk.inj hj).1
  arm _ _ _ _ hj := by
    obtain ⟨hnext, hrefusing⟩ := Prod.mk.inj hj
    simp [Journal.host, Outcome.mapState, Journal.write, hnext, hrefusing]
  cancel _ _ _ hj := hj
  report _ _ _ hj := hj
  note _ _ := rfl

end ModemRelay.Relay
