import ModemRelay.Proofs.Relay.Answering
import ModemRelay.Proofs.Relay.Calls
import ModemRelay.Proofs.Relay.Counters
import ModemRelay.Relay.Journal

/-!
# Lines that are refused

Whether a line is taken or refused shows in the counters of lines alone. Two relays with the same
timers that take the same inputs ask for the same, and are the same after each call but for these
counters, whatever becomes of the single lines (`attempts_handleAll`). Of the surroundings only the
timers matter then (`Host.Uses`): which handles they give follows from the actions alone
(`Scheduler.heedAll`).
-/

namespace ModemRelay.Relay

/-- A facility for timers, with a state of type `τ`. -/
structure Scheduler (τ : Type) where
  /-- The handle that the next armed timer gets. -/
  nextTimer : τ → TimerHandle
  arm : Duration → ExchangeId → τ → Outcome τ Unit
  cancel : TimerHandle → τ → τ

variable {σ σ' τ β : Type} {host : Host σ} {host' : Host σ'} {scheduler : Scheduler τ}
  {timers : σ → τ} {timers' : σ' → τ} {s s₁ : σ} {s' : σ'} {r : Relay} {input : Input}
  {view : Action → Option β} {calls : List Call}

namespace Scheduler

/-- What comes of an action for the timers. -/
def heed (scheduler : Scheduler τ) : Action → τ → Outcome τ Unit
  | .arm delay x, t => scheduler.arm delay x t
  | .cancel timer, t => .done () (scheduler.cancel timer t)
  | _, t => .done () t

def heedAll (scheduler : Scheduler τ) : List Action → τ → Outcome τ Unit
  | [], t => .done () t
  | action :: rest, t => (scheduler.heed action t).andThen fun _ t => scheduler.heedAll rest t

end Scheduler

/-- The surroundings take each line or refuse it, and leave their timers, which `timers` finds in
their state, to the scheduler. -/
structure Host.Uses (host : Host σ) (scheduler : Scheduler τ) (timers : σ → τ) : Prop where
  send (e : Endpoint) (line : String) (s : σ) :
    ∃ reply s', host.send e line s = .done reply s' ∧ timers s' = timers s
  nextTimer (s : σ) : host.nextTimer s = scheduler.nextTimer (timers s)
  arm (delay : Duration) (x : ExchangeId) (s : σ) :
    (host.arm delay x s).mapState timers = scheduler.arm delay x (timers s)
  cancel (timer : TimerHandle) (s : σ) :
    timers (host.cancel timer s) = scheduler.cancel timer (timers s)
  report (f : Failure) (s : σ) : timers (host.report f s) = timers s
  note (notice : Notice) (s : σ) : timers (host.note notice s) = timers s

namespace Host.Uses

theorem perform (h : host.Uses scheduler timers) (action : Action) (d : Deliveries) (s : σ) :
    (Relay.perform host action d s).mapState (timers ·.2) = scheduler.heed action (timers s) := by
  cases action with
  | send e line =>
    obtain ⟨reply, s', hsend, hs⟩ := h.send e line s
    simp only [Relay.perform, hsend]
    cases reply with
    | accepted => simp [Outcome.mapState, Scheduler.heed, hs]
    | refused cause => simp [Outcome.mapState, Scheduler.heed, h.note, hs]
  | arm delay x =>
    have harm := h.arm delay x s
    rw [Relay.perform, Scheduler.heed, ← harm]
    cases host.arm delay x s <;> rfl
  | undeliverable line mode => simp [Relay.perform, Outcome.mapState, Scheduler.heed, h.note]
  | cancel timer => simp [Relay.perform, Outcome.mapState, Scheduler.heed, h.cancel]
  | report failure => simp [Relay.perform, Outcome.mapState, Scheduler.heed, h.report]
  | note notice => simp [Relay.perform, Outcome.mapState, Scheduler.heed, h.note]

theorem performAll (h : host.Uses scheduler timers) (actions : List Action) (d : Deliveries)
    (s : σ) :
    (Relay.performAll host actions d s).mapState (timers ·.2) =
      scheduler.heedAll actions (timers s) := by
  induction actions generalizing d s with
  | nil => rfl
  | cons action rest ih =>
    rw [performAll_cons, Scheduler.heedAll, ← h.perform action d s]
    cases Relay.perform host action d s with
    | done _ state => exact ih state.1 state.2
    | overflow state => rfl

/-- Surroundings that are watched leave their timers to the same scheduler. -/
theorem watched (h : host.Uses scheduler timers) (view : Action → Option β) :
    (host.watched view).Uses scheduler (timers ·.1) where
  send e line s := by
    obtain ⟨reply, s', hsend, hs⟩ := h.send e line s.1
    exact ⟨reply, _, by simp only [Host.watched, hsend]; rfl, hs⟩
  nextTimer s := h.nextTimer s.1
  arm delay x s := by
    rw [← h.arm]
    simp only [Host.watched]
    cases host.arm delay x s.1 <;> rfl
  cancel timer s := h.cancel timer s.1
  report f s := h.report f s.1
  note notice s := h.note notice s.1

end Host.Uses

/-! ## A run whatever becomes of its lines -/

/-- The relay without its counters of lines, and the lines that these count together. -/
def pooled (r : Relay) : Relay × Nat := ({ r with deliveries := {} }, r.deliveries.total)

theorem eq_of_pooled_eq {r r' : Relay} (h : r.pooled = r'.pooled) :
    r' = { r with deliveries := r'.deliveries } ∧ r.deliveries.total = r'.deliveries.total := by
  obtain ⟨hrest, htotal⟩ := Prod.mk.inj h
  exact ⟨congrArg (fun p : Relay => { p with deliveries := r'.deliveries }) hrest.symm, htotal⟩

/-- Relays that are the same but for their counters of lines, among surroundings that have the same
timers and have seen the same. -/
structure Level (timers : σ → τ) (timers' : σ' → τ) (r : Relay) (s : σ × List β) (r' : Relay)
    (s' : σ' × List β) : Prop where
  pooled : r.pooled = r'.pooled
  timers : timers s.1 = timers' s'.1
  seen : s.2 = s'.2

/-- Relays that are level are so after a call, whichever lines are taken in it. -/
theorem Host.Uses.handle (h : host.Uses scheduler timers) (h' : host'.Uses scheduler timers')
    (hv : Action.Outward view) {r r₁ r' : Relay} {s s₁ : σ × List β} {s' : σ' × List β}
    (hl : Level timers timers' r s r' s')
    (hcall : Relay.handle (host.watched view) input r s = .done () (r₁, s₁)) :
    ∃ r₁' s₁', Relay.handle (host'.watched view) input r' s' = .done () (r₁', s₁') ∧
      Level timers timers' r₁ s₁ r₁' s₁' := by
  obtain ⟨s, seen⟩ := s
  obtain ⟨s', seen'⟩ := s'
  obtain ⟨s₁, seen₁⟩ := s₁
  obtain ⟨hpooled, hs, rfl⟩ := hl
  obtain ⟨hr', hd⟩ := eq_of_pooled_eq hpooled
  obtain ⟨deliveries, hp, rfl⟩ := handle_done hcall
  change Relay.performAll _ (r.step (host.nextTimer s) input).2 _ _ = _ at hp
  have htimers := (h.watched view).performAll (r.step (host.nextTimer s) input).2 r.deliveries
    (s, seen)
  rw [hp, hs, ← (h'.watched view).performAll _ r'.deliveries (s', seen)] at htimers
  obtain ⟨⟨d₁, s₁', seen₁'⟩, hp', hs₁⟩ := Outcome.mapState_eq_done.mp htimers.symm
  have hnext : (host'.watched view).nextTimer (s', seen) = host.nextTimer s := by
    rw [(h'.watched view).nextTimer, h.nextTimer, hs]
  have hstep : r'.step (host.nextTimer s) input =
      ({ (r.step (host.nextTimer s) input).1 with deliveries := r'.deliveries },
        (r.step (host.nextTimer s) input).2) := by
    rw [hr']
    exact step_recount r 0 r'.deliveries _ _
  have hcall' : Relay.handle (host'.watched view) input r' (s', seen) =
      .done () (_, (s₁', seen₁')) := handle_of_performAll (by rw [hnext, hstep]; exact hp')
  rw [hnext, hstep] at hcall'
  refine ⟨_, _, hcall', ?_, hs₁.symm, ?_⟩
  · refine Prod.ext rfl ?_
    change deliveries.total = d₁.total
    rw [performAll_total hp, performAll_total hp', hd]
  · change seen₁ = seen₁'
    rw [performAll_watched hv hp, performAll_watched hv hp']

/-- **Refused lines make no difference** beyond the counters of lines. In surroundings that have the
same timers and take and refuse lines as they like, the same is asked for in the same order, and the
relays are the same after each call but for these counters, of which the sum is the same. -/
theorem attempts_handleAll (h : host.Uses scheduler timers) (h' : host'.Uses scheduler timers')
    (inputs : List Input) (config : Config) (hasModem : Bool) {asked : List Action}
    (hrun : handleAll (host.watched Action.asked?) inputs (.new config hasModem) (s, []) =
      .done calls (r, (s₁, asked)))
    (hs : timers s = timers' s') :
    ∃ calls' r' s₁', handleAll (host'.watched Action.asked?) inputs (.new config hasModem)
        (s', []) = .done calls' (r', (s₁', asked)) ∧
      calls.map (·.after.pooled) = calls'.map (·.after.pooled) := by
  have hstart : Level timers timers' (.new config hasModem) (s, ([] : List Action))
      (.new config hasModem) (s', []) := ⟨rfl, hs, rfl⟩
  obtain ⟨calls', r', ⟨s₁', asked'⟩, hrun', hlevel, heq⟩ :=
    handleAll_matched (R := Level timers timers') (P := fun _ => True)
      (fun hl hi hcall _ => by cases hi; exact h.handle h' Action.outward_asked? hl hcall)
      Level.pooled hstart (show inputs.map id = inputs.map id from rfl) hrun fun _ _ => trivial
  obtain rfl : asked = asked' := hlevel.seen
  exact ⟨calls', r', s₁', hrun', heq⟩

/-- Timers that get consecutive handles. -/
def Scheduler.consecutive : Scheduler TimerHandle where
  nextTimer t := t
  arm _ _ t := .done () ⟨t.val + 1⟩
  cancel _ t := t

theorem Journal.host_uses : Journal.host.Uses .consecutive (·.nextTimer) where
  send e line j := by
    by_cases he : e ∈ j.refusing
    · exact ⟨.refused ⟨e.name⟩, j, if_pos he, rfl⟩
    · exact ⟨.accepted, j.write (.sent e line), if_neg he, rfl⟩
  nextTimer _ := rfl
  arm _ _ _ := rfl
  cancel _ _ := rfl
  report _ _ := rfl
  note _ _ := rfl

/-- Commands and answers among which two exchanges are drained, with the endpoints that refuse
lines. -/
def strained (refusing : List Endpoint) :
    Outcome (Relay × Journal × List Action) (List Call) :=
  handleAll (Journal.host.watched Action.asked?)
    [.line .modemManager "AT", .setMode .splitVerify, .line .modemManager "ATI",
      .line .model "A", .line .model "B", .line .modem "a", .line .model "C", .setMode .passThrough,
      .line .modem "b", .line .modem "c", .line .modem "d", .timer ⟨1⟩]
    (.new {} true) (⟨⟨1⟩, refusing, #[], {}, #[]⟩, [])

theorem attempts_handleAll_strained :
    ∃ calls r s asked calls' r' s', strained [.modem] = .done calls (r, (s, asked)) ∧
      strained [.modemManager, .model] = .done calls' (r', (s', asked)) ∧
      calls.map (·.after.pooled) = calls'.map (·.after.pooled) ∧
      r.deliveries = ⟨4, 0, 2, 1⟩ ∧ r'.deliveries = ⟨0, 1, 0, 6⟩ := by
  obtain ⟨calls, r, s, asked, hrun⟩ : ∃ calls r s asked,
      strained [.modem] = .done calls (r, (s, asked)) :=
    ⟨_, _, _, _, Outcome.eq_done (by decide +kernel)⟩
  obtain ⟨calls', r', s', hrun', heq⟩ :
      ∃ calls' r' s', strained [.modemManager, .model] = .done calls' (r', (s', asked)) ∧
        calls.map (·.after.pooled) = calls'.map (·.after.pooled) :=
    attempts_handleAll Journal.host_uses Journal.host_uses _ _ _ hrun rfl
  have hr := congrArg (·.state.1.deliveries) hrun
  have hr' := congrArg (·.state.1.deliveries) hrun'
  exact ⟨calls, r, s, asked, calls', r', s', hrun, hrun', heq, hr.symm.trans (by decide +kernel),
    hr'.symm.trans (by decide +kernel)⟩

end ModemRelay.Relay
