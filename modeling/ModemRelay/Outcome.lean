/-! Acts that may have to stop half way.

Setting a time may fail, where it would lie past the largest duration. An act that fails so has
still had the effects that came before, hence both ways carry a state. -/

namespace ModemRelay

/-- What comes of an act: it is done, with a result, or it stopped on a time out of range. The
state is the one that it left behind. -/
inductive Outcome (σ : Type u) (α : Type v) where
  | done (result : α) (state : σ)
  | overflow (state : σ)

namespace Outcome

def state : Outcome σ α → σ
  | done _ s | overflow s => s

/-- The result, where the act was done. -/
def result? : Outcome σ α → Option α
  | done a _ => some a
  | overflow _ => none

/-- Goes on with the next act, unless this one stopped. -/
def andThen (o : Outcome σ α) (next : α → σ → Outcome σ β) : Outcome σ β :=
  match o with
  | done a s => next a s
  | overflow s => overflow s

/-- Sees the state as part of a larger one. -/
def mapState (f : σ → τ) : Outcome σ α → Outcome τ α
  | done a s => done a (f s)
  | overflow s => overflow (f s)

def map (f : α → β) : Outcome σ α → Outcome σ β
  | done a s => done (f a) s
  | overflow s => overflow s

@[simp] theorem state_map (f : α → β) (o : Outcome σ α) : (o.map f).state = o.state := by
  cases o <;> rfl

@[simp] theorem state_mapState (f : σ → τ) (o : Outcome σ α) :
    (o.mapState f).state = f o.state := by
  cases o <;> rfl

/-- An act that has a result is done with it. -/
theorem eq_done {o : Outcome σ α} (h : o.result?.isSome = true) :
    o = .done (o.result?.get h) o.state := by
  cases o with
  | done => rfl
  | overflow => cases h

/-- An act that has no result has stopped. -/
theorem eq_overflow {o : Outcome σ α} (h : o.result? = none) : o = .overflow o.state := by
  cases o with
  | done => cases h
  | overflow => rfl

variable {o : Outcome σ α} {a : α} {b : β} {s s' : σ} {t : τ}

theorem andThen_eq_done {next : α → σ → Outcome σ β} :
    o.andThen next = .done b s' ↔ ∃ a s, o = .done a s ∧ next a s = .done b s' := by
  cases o <;> simp [andThen, and_assoc]

theorem andThen_eq_overflow {next : α → σ → Outcome σ β} :
    o.andThen next = .overflow s' ↔
      o = .overflow s' ∨ ∃ a s, o = .done a s ∧ next a s = .overflow s' := by
  cases o <;> simp [andThen, and_assoc]

theorem mapState_eq_done {f : σ → τ} :
    o.mapState f = .done a t ↔ ∃ s, o = .done a s ∧ f s = t := by
  cases o <;> simp [mapState, and_assoc, eq_comm]

theorem mapState_eq_overflow {f : σ → τ} :
    o.mapState f = .overflow t ↔ ∃ s, o = .overflow s ∧ f s = t := by
  cases o <;> simp [mapState]

theorem map_eq_done {f : α → β} : o.map f = .done b s ↔ ∃ a, o = .done a s ∧ f a = b := by
  cases o <;> grind [map]

theorem map_eq_overflow {f : α → β} : o.map f = .overflow s ↔ o = .overflow s := by
  cases o <;> simp [map]

/-- Acts that go alike, as far as `f` tells of the state, go alike in larger states. -/
theorem mapState_mapState_congr {f : σ → τ} {o' : Outcome σ α} {g g' : σ → ρ} {f' : ρ → υ}
    (h : o.mapState f = o'.mapState f) (hg : ∀ s s', f s = f s' → f' (g s) = f' (g' s')) :
    (o.mapState g).mapState f' = (o'.mapState g').mapState f' := by
  cases o with
  | done a s =>
    obtain ⟨s', rfl, hs⟩ := mapState_eq_done.mp h.symm
    exact congrArg (done a) (hg s s' hs.symm)
  | overflow s =>
    obtain ⟨s', rfl, hs⟩ := mapState_eq_overflow.mp h.symm
    exact congrArg overflow (hg s s' hs.symm)

/-- Acts that go alike, as far as `f` tells of the state, and go on alike. -/
theorem mapState_andThen_congr {f : σ → τ} {o' : Outcome σ α} {next next' : α → σ → Outcome σ β}
    (h : o.mapState f = o'.mapState f)
    (hn : ∀ a s s', f s = f s' → (next a s).mapState f = (next' a s').mapState f) :
    (o.andThen next).mapState f = (o'.andThen next').mapState f := by
  cases o with
  | done a s =>
    obtain ⟨s', rfl, hs⟩ := mapState_eq_done.mp h.symm
    exact hn a s s' hs.symm
  | overflow s =>
    obtain ⟨s', rfl, hs⟩ := mapState_eq_overflow.mp h.symm
    exact congrArg overflow hs.symm

end Outcome

end ModemRelay
