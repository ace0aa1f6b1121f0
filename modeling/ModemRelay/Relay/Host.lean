import ModemRelay.Outcome
import ModemRelay.Relay.Step

/-! The relay among its surroundings.

A `Host` is what surrounds a relay: it takes lines or refuses them, keeps timers, hears of failures
and keeps the log. `Relay.handle` takes one step of the relay and has the host carry out the actions
in order, counting the lines that it takes. Only lines and timers can make the host stop on a time
out of range; the relay is then as it was before the step, except for the lines counted so far and
for the number of an exchange that the step was about to open (`Relay.halted`). -/

namespace ModemRelay.Relay

/-- The surroundings of a relay, with a state of type `σ`. -/
structure Host (σ : Type) where
  /-- Takes a line for an endpoint or refuses it. -/
  send : Endpoint → String → σ → Outcome σ Reply
  /-- The handle that the next armed timer gets. -/
  nextTimer : σ → TimerHandle
  arm : Duration → ExchangeId → σ → Outcome σ Unit
  cancel : TimerHandle → σ → σ
  report : Failure → σ → σ
  note : Notice → σ → σ

variable {σ : Type}

/-- Has the host carry out one action. -/
def perform (host : Host σ) (action : Action) (d : Deliveries) (s : σ) :
    Outcome (Deliveries × σ) Unit :=
  match action with
  | .send target line =>
    match host.send target line s with
    | .done .accepted s => .done () (d.accept target, s)
    | .done (.refused cause) s =>
      .done () (d.refuse, host.note (.refused target line cause) s)
    | .overflow s => .overflow (d, s)
  | .undeliverable line mode =>
    .done () (d.refuse, host.note (.noModem line mode) s)
  | .arm delay exchange => (host.arm delay exchange s).mapState (d, ·)
  | .cancel timer => .done () (d, host.cancel timer s)
  | .report failure => .done () (d, host.report failure s)
  | .note notice => .done () (d, host.note notice s)

/-- Has the host carry out actions in order, up to the first that stops. -/
def performAll (host : Host σ) : List Action → Deliveries → σ → Outcome (Deliveries × σ) Unit
  | [], d, s => .done () (d, s)
  | action :: rest, d, s =>
    match perform host action d s with
    | .done () (d, s) => performAll host rest d s
    | .overflow state => .overflow state

/-- Takes one step of the relay and has the host carry it out. -/
def handle (host : Host σ) (input : Input) (r : Relay) (s : σ) : Outcome (Relay × σ) Unit :=
  let (r', actions) := r.step (host.nextTimer s) input
  match performAll host actions r.deliveries s with
  | .done () (d, s) => .done () ({ r' with deliveries := d }, s)
  | .overflow (d, s) => .overflow (r.halted r' d, s)

/-- All that an action can come to where the host is done with it: the lines counted and the state
before and after. -/
inductive Performs (host : Host σ) : Action → Deliveries → σ → Deliveries → σ → Prop where
  | taken (h : host.send target line s = .done .accepted s') :
    Performs host (.send target line) d s (d.accept target) s'
  | refused (h : host.send target line s = .done (.refused cause) s') :
    Performs host (.send target line) d s d.refuse (host.note (.refused target line cause) s')
  | undeliverable {m : Mode} :
    Performs host (.undeliverable line m) d s d.refuse (host.note (.noModem line m) s)
  | armed (h : host.arm delay exchange s = .done () s') :
    Performs host (.arm delay exchange) d s d s'
  | cancelled : Performs host (.cancel timer) d s d (host.cancel timer s)
  | reported {f : Failure} : Performs host (.report f) d s d (host.report f s)
  | noted : Performs host (.note notice) d s d (host.note notice s)

variable {host : Host σ} {input : Input} {r r' : Relay} {s s' : σ} {action : Action}
  {actions : List Action} {d d' : Deliveries}

theorem performs_of_done (h : perform host action d s = .done () (d', s')) :
    Performs host action d s d' s' := by
  cases action with
  | send target line =>
    rw [perform] at h
    split at h
    · next hsend =>
      cases h
      exact .taken hsend
    · next hsend =>
      cases h
      exact .refused hsend
    · cases h
  | arm delay exchange =>
    obtain ⟨s₁, harm, heq⟩ := Outcome.mapState_eq_done.mp h
    cases heq
    exact .armed harm
  | undeliverable =>
    cases h
    exact .undeliverable
  | cancel =>
    cases h
    exact .cancelled
  | report =>
    cases h
    exact .reported
  | note =>
    cases h
    exact .noted

theorem performAll_cons_done (h : performAll host (action :: actions) d s = .done () (d', s')) :
    ∃ d₁ s₁, perform host action d s = .done () (d₁, s₁) ∧
      performAll host actions d₁ s₁ = .done () (d', s') := by
  rw [performAll] at h
  split at h
  · next d₁ s₁ hact => exact ⟨d₁, s₁, hact, h⟩
  · cases h

theorem performAll_cons_overflow
    (h : performAll host (action :: actions) d s = .overflow (d', s')) :
    perform host action d s = .overflow (d', s') ∨
      ∃ d₁ s₁, perform host action d s = .done () (d₁, s₁) ∧
        performAll host actions d₁ s₁ = .overflow (d', s') := by
  rw [performAll] at h
  split at h
  · next d₁ s₁ hact => exact .inr ⟨d₁, s₁, hact, h⟩
  · next state hact =>
    cases h
    exact .inl hact

theorem handle_done (h : handle host input r s = .done () (r', s')) :
    ∃ deliveries, performAll host (r.step (host.nextTimer s) input).2 r.deliveries s =
        .done () (deliveries, s') ∧
      r' = { (r.step (host.nextTimer s) input).1 with deliveries } := by
  unfold handle at h
  cases hp : performAll host (r.step (host.nextTimer s) input).2 r.deliveries s with
  | done _ state =>
    simp only [hp] at h
    cases h
    exact ⟨_, rfl, rfl⟩
  | overflow state => simp [hp] at h

/-- A call is done when all that the step asks for is. -/
theorem handle_of_performAll
    (h : performAll host (r.step (host.nextTimer s) input).2 r.deliveries s = .done () (d, s')) :
    handle host input r s =
      .done () ({ (r.step (host.nextTimer s) input).1 with deliveries := d }, s') := by
  simp only [handle, h]

theorem handle_overflow (h : handle host input r s = .overflow (r', s')) :
    ∃ deliveries, performAll host (r.step (host.nextTimer s) input).2 r.deliveries s =
        .overflow (deliveries, s') ∧
      r' = r.halted (r.step (host.nextTimer s) input).1 deliveries := by
  unfold handle at h
  cases hp : performAll host (r.step (host.nextTimer s) input).2 r.deliveries s with
  | done _ state => simp [hp] at h
  | overflow state =>
    simp only [hp] at h
    cases h
    exact ⟨_, rfl, rfl⟩

end ModemRelay.Relay
