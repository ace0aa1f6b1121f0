import ModemRelay.Proofs.Relay.Answering
import ModemRelay.Proofs.Simulation.Bookkeeping
import ModemRelay.Proofs.Simulation.Slicing

/-!
# Runs that are cut off

A run handles no more than so many events, and where it has handled as many it warns that it was
stopped. The warning is all that a session itself writes to the log; the rest comes from its relay
and of the failures (`Peers.host_keeps_records`). It never fails to come where events are left, but
it comes as well where the last event that a run may handle is also the last that there is, so that
nothing has been cut off (`Session.announced_run`, `Session.not_forall_warned_iff`).
-/

namespace ModemRelay

namespace Relay

variable {σ τ : Type} {host : Host σ} {view : σ → τ}

/-- Whatever is asked of the surroundings, they keep what a view shows of their state. -/
structure Host.Keeps (host : Host σ) (view : σ → τ) : Prop where
  send (e : Endpoint) (line : String) (s : σ) : view (host.send e line s).state = view s
  arm (delay : Duration) (x : ExchangeId) (s : σ) : view (host.arm delay x s).state = view s
  cancel (timer : TimerHandle) (s : σ) : view (host.cancel timer s) = view s
  report (f : Failure) (s : σ) : view (host.report f s) = view s
  note (notice : Notice) (s : σ) : view (host.note notice s) = view s

namespace Host.Keeps

theorem perform (h : host.Keeps view) (action : Action) (d : Deliveries) (s : σ) :
    view (Relay.perform host action d s).state.2 = view s := by
  cases action with
  | send e line =>
    have hsend := h.send e line s
    rw [Relay.perform]
    cases hs : host.send e line s with
    | done reply s' =>
      rw [hs] at hsend
      cases reply with
      | accepted => exact hsend
      | refused cause => exact (h.note _ _).trans hsend
    | overflow s' =>
      rw [hs] at hsend
      exact hsend
  | arm delay x =>
    rw [Relay.perform, Outcome.state_mapState]
    exact h.arm delay x s
  | undeliverable => exact h.note ..
  | cancel => exact h.cancel ..
  | report => exact h.report ..
  | note => exact h.note ..

theorem performAll (h : host.Keeps view) (actions : List Action) (d : Deliveries) (s : σ) :
    view (Relay.performAll host actions d s).state.2 = view s := by
  induction actions generalizing d s with
  | nil => rfl
  | cons action rest ih =>
    have hfirst := h.perform action d s
    rw [performAll_cons]
    cases hp : Relay.perform host action d s with
    | done _ state =>
      rw [hp] at hfirst
      exact (ih state.1 state.2).trans hfirst
    | overflow state =>
      rw [hp] at hfirst
      exact hfirst

theorem handle (h : host.Keeps view) (input : Input) (r : Relay) (s : σ) :
    view (Relay.handle host input r s).state.2 = view s := by
  have hall := h.performAll (r.step (host.nextTimer s) input).2 r.deliveries s
  unfold Relay.handle
  cases hp : Relay.performAll host (r.step (host.nextTimer s) input).2 r.deliveries s with
  | done _ state | overflow state =>
    rw [hp] at hall
    simp only [hp]
    exact hall

end Host.Keeps

end Relay

namespace Simulation
open Relay

namespace Peers

/-- What the session itself has written to the log, besides what comes from its relay and of the
failures. -/
def records (p : Peers) : List Log.Record :=
  (p.log.toList.map (·.record)).filter (·.source = .session)

theorem records_note (p : Peers) (n : Notice) :
    (p.note n).records =
      p.records ++ if n.record.source = .session then [n.record] else [] := by
  unfold records note
  rw [Array.toList_push, List.map_append, List.filter_append]
  split <;> simp [*]

theorem host_keeps_records : host.Keeps records where
  send e line p := by
    change (p.send e line).state.records = p.records
    unfold send
    split
    · rfl
    · cases e <;> simp only [Outcome.state_map, Outcome.state_mapState] <;> rfl
  arm delay x p := by
    change ((p.arm delay x).map _).state.records = p.records
    rw [Outcome.state_map, arm, Outcome.state_mapState]
    rfl
  cancel _ _ := rfl
  report f p := by
    change ((p.report f).note (.failure f)).records = p.records
    rw [records_note]
    cases f <;> exact List.append_nil _
  note notice p := by
    change (p.note (.relay notice)).records = p.records
    rw [records_note]
    exact List.append_nil _

end Peers

namespace Session

/-- What a session itself has written to the log. -/
def records (s : Session) : List Log.Record := s.peers.records

/-- The warning that a run of a session with the seed has been stopped. -/
def warning (seed : UInt64) : Log.Record where
  level := .warn
  source := .session
  message := "simulation stopped after 100000 steps"
  fields := [("seed", .plain (toString seed))]

def seed (s : Session) : UInt64 := s.peers.env.random.seed

/-- The run from `s` to `s'` has warned that it was stopped. -/
def Warned (s s' : Session) : Prop := s'.records = s.records ++ [warning s'.seed]

/-- What a run that has handled `n` events on its way from `s` to `s'` tells of its end. -/
structure Announced (s : Session) (n : Nat) (s' : Session) : Prop where
  counted : s'.steps = s.steps + n
  bounded : n ≤ maxSteps
  /-- It warns, and once, where it has handled as many as it may. -/
  records : s'.records = s.records ++ if n = maxSteps then [warning s'.seed] else []
  /-- It does not keep silent about events that are left, -/
  left : s'.agenda.size ≠ 0 → s.Warned s'
  /-- and so the warning tells exactly whether events are left, except where the last that it may
  handle is the last that there is. -/
  told : (s.Warned s' ↔ s'.agenda.size ≠ 0) ↔ ¬(n = maxSteps ∧ s'.agenda.size = 0)

variable {s s₁ s' : Session} {n : Nat} {line : String}

/-! ## What handling events writes to the log -/

theorem records_feed (s : Session) (input : Input) : (s.feed input).state.records = s.records := by
  rw [feed, Outcome.state_mapState]
  exact Peers.host_keeps_records.handle input s.relay s.peers

theorem records_setMode (s : Session) (mode : Mode) :
    (s.setMode mode).state.records = s.records := by
  have hfeed := s.records_feed (.setMode mode)
  unfold setMode
  cases hf : s.feed (.setMode mode) with
  | done | overflow =>
    rw [hf] at hfeed
    exact hfeed

theorem records_dispatch (s : Session) (due : Due) :
    (s.dispatch due).state.records = s.records := by
  unfold dispatch
  split
  · exact records_feed ..
  · exact records_feed ..
  · rw [Outcome.state_map]
    exact records_setMode ..

/-- **Handling an event, a session writes nothing to the log itself**, also where it stops. -/
theorem records_step (s : Session) : s.step.state.records = s.records := by
  unfold step
  split
  · rfl
  · rw [Outcome.state_map]
    exact records_dispatch ..

theorem Handles.records_eq (h : Handles n s s') : s'.records = s.records := by
  refine h.invariant (J := (·.records = s.records)) (fun {s₁ s₂} h₁ hs => ?_) rfl
  have hstep := s₁.records_step
  rw [hs] at hstep
  exact hstep.trans h₁

theorem records_ended (s : Session) (n : Nat) :
    (s.ended n).records = s.records ++ if n = maxSteps then [warning s.seed] else [] := by
  unfold ended
  split
  · exact Peers.records_note ..
  · exact (List.append_nil _).symm

@[simp] theorem seed_ended (s : Session) (n : Nat) : (s.ended n).seed = s.seed :=
  congrArg (·.random.seed) s.env_ended

theorem warned_ended (hr : s₁.records = s.records) : s.Warned (s₁.ended n) ↔ n = maxSteps := by
  rw [Warned, records_ended, hr, List.append_cancel_left_eq, seed_ended]
  split <;> simp [*]

/-- What a run tells that has handled the events up to `s₁`. -/
theorem Handles.announced (hn : Handles n s s₁) (hle : n ≤ maxSteps)
    (hidle : n < maxSteps → s₁.agenda.size = 0) : s.Announced n (s₁.ended n) := by
  have hwarned : s.Warned (s₁.ended n) ↔ n = maxSteps := warned_ended hn.records_eq
  have hleft : (s₁.ended n).agenda.size ≠ 0 → n = maxSteps := by
    rw [agenda_ended]
    intro hsize
    exact Nat.le_antisymm hle (Nat.le_of_not_lt fun hlt => hsize (hidle hlt))
  constructor
  case counted => rw [steps_ended, hn.steps_eq]
  case bounded => exact hle
  case records => rw [records_ended, hn.records_eq, seed_ended]
  case left => exact fun hsize => hwarned.mpr (hleft hsize)
  case told =>
    rw [hwarned]
    by_cases hsize : (s₁.ended n).agenda.size = 0
    · rw [hsize]
      simp
    · rw [hleft hsize]
      simp

/-- **A run warns exactly where it has handled as many events as it may**, in every session, and one
that stops on a time out of range does not warn. So no run that leaves events keeps silent. -/
theorem announced_run (s : Session) :
    (∀ n s', s.run = .done n s' → s.Announced n s') ∧
      ∀ s', s.run = .overflow s' → s'.records = s.records := by
  obtain ⟨m, s₁, hm, ⟨hdone, hle, hidle⟩ | ⟨s₂, ho, hstop⟩⟩ := s.run_cases
  · rw [hdone]
    constructor
    · rintro _ _ ⟨⟩
      exact hm.announced hle hidle
    · rintro _ ⟨⟩
  · rw [ho]
    constructor
    · rintro _ _ ⟨⟩
    · rintro _ ⟨⟩
      have hstep := s₁.records_step
      rw [hstop] at hstep
      exact hstep.trans hm.records_eq

/-! ## A crowd of lines -/

/-- Lines of the modem, so many at once. -/
def crowd (n : Nat) : List Operation := List.replicate n (.inject .zero .modem "RING")

/-- A session that has been in the ward-model mode all the time, and to which nothing is to come but
lines of the modem. -/
structure Pestered (s : Session) : Prop where
  agenda : s.agenda.Keyed
  mode : s.relay.mode = .wardModel
  owed : s.relay.owedModemLines = 0
  lines : ∀ x ∈ s.agenda.lane some, ∃ line, x.2 = .line .modem line

namespace Pestered

/-- A line of the modem is dropped. -/
theorem feed (h : s.Pestered) (line : String) :
    ∃ s', s.feed (.line .modem line) = .done () s' ∧ s'.Pestered ∧ s'.agenda = s.agenda := by
  have hstep : s.relay.step (Peers.host.nextTimer s.peers) (.line .modem line) =
      ((s.relay.dropLine .modem line).1,
        .note (.received .modem line) :: (s.relay.dropLine .modem line).2) := by
    simp [Relay.step, onModemLine, h.mode, h.owed]
  have hall : Relay.performAll Peers.host
      (s.relay.step (Peers.host.nextTimer s.peers) (.line .modem line)).2
      s.relay.deliveries s.peers =
        .done () (s.relay.deliveries, (s.peers.note (.relay (.received .modem line))).note
          (.relay (.dropped .modem s.relay.mode line))) := by
    rw [hstep]
    rfl
  rw [Session.feed, handle_of_performAll hall, hstep]
  exact ⟨_, rfl, ⟨h.agenda, h.mode, h.owed, h.lines⟩, rfl⟩

theorem step (h : s.Pestered) (hsize : s.agenda.size ≠ 0) :
    ∃ s', s.step = .done true s' ∧ s'.Pestered ∧ s.agenda.size = s'.agenda.size + 1 := by
  cases hp : s.agenda.popNext with
  | none => exact (hsize (Agenda.size_eq_zero_iff.mpr (Agenda.popNext_eq_none_iff.mp hp))).elim
  | some first =>
    obtain ⟨⟨key, time, event⟩, agenda⟩ := first
    have hlane := Agenda.lane_popNext hp some
    obtain ⟨line, rfl⟩ : ∃ line, event = .line .modem line :=
      h.lines (⟨time, key⟩, event) (hlane ▸ List.mem_cons_self)
    let heard : Session :=
      { s.mapEnv ({ · with agenda }) with steps := s.steps + 1 }.mapEnv
        (·.record (.received .modem line))
    have hheard : heard.Pestered :=
      ⟨h.agenda.popNext hp, h.mode, h.owed,
        fun x hx => h.lines x (hlane ▸ List.mem_cons_of_mem _ hx)⟩
    obtain ⟨s', hf, hs', hagenda⟩ := hheard.feed line
    refine ⟨s', ?_, hs', ?_⟩
    · rw [Session.step, show s.peers.env.agenda.popNext = _ from hp]
      exact congrArg (Outcome.map fun _ => true) hf
    · rw [hagenda]
      exact Agenda.size_popNext hp

/-- All lines are handled, one after the other. -/
theorem handles (h : s.Pestered) (hn : s.agenda.size = n) :
    ∃ s', Handles n s s' ∧ s'.agenda.size = 0 := by
  induction n generalizing s with
  | zero => exact ⟨s, .nil, hn⟩
  | succ n ih =>
    obtain ⟨s₁, hs, h₁, hsize⟩ := h.step (by omega)
    obtain ⟨s', hrest, hidle⟩ := ih h₁ (by omega)
    exact ⟨s', .cons hs hrest, hidle⟩

theorem inject (h : s.Pestered) (hnow : s.now = .zero) (line : String) :
    ∃ s', s.inject .zero .modem line = .done () s' ∧ s'.Pestered ∧ s'.now = .zero ∧
      s'.agenda.size = s.agenda.size + 1 := by
  have hdue : s.agenda.now.add? .zero = some .zero := by
    rw [show s.agenda.now = .zero from hnow]
    decide
  have hset : s.peers.env.schedule .zero (.line .modem line) = .done s.agenda.nextKey
      { s.peers.env with agenda := s.agenda.post .zero (.line .modem line) } :=
    Environment.schedule_eq_done_iff.mpr ⟨_, hdue, rfl, rfl⟩
  rw [Session.inject, Session.schedule, hset]
  refine ⟨_, rfl, ⟨h.agenda.post, h.mode, h.owed, fun x hx => ?_⟩, hnow, h.agenda.size_post⟩
  rcases List.mem_append.mp (h.agenda.perm_lane_post.mem_iff.mp hx) with hx | hx
  · exact h.lines x hx
  · exact ⟨line, congrArg (·.2) (List.mem_singleton.mp hx)⟩

theorem performAll (h : s.Pestered) (hnow : s.now = .zero) (n : Nat) :
    ∃ s', performAll (crowd n) s = .done () s' ∧ s'.Pestered ∧
      s'.agenda.size = s.agenda.size + n := by
  induction n generalizing s with
  | zero => exact ⟨s, rfl, h, rfl⟩
  | succ n ih =>
    obtain ⟨s₁, hs, h₁, hnow₁, hsize⟩ := h.inject hnow "RING"
    obtain ⟨s', hrest, h', hsize'⟩ := ih h₁ hnow₁
    refine ⟨s', ?_, h', by omega⟩
    change (s.inject .zero .modem "RING").andThen (fun _ => Session.performAll (crowd n)) = _
    rw [hs]
    exact hrest

end Pestered

/-- A crowd of lines is as many events, after which nothing is left. -/
theorem handles_crowd (n : Nat) :
    ∃ s s', performAll (crowd n) (.new {}) = .done () s ∧ Handles n s s' ∧
      s'.agenda.size = 0 := by
  have hnew : (Session.new {}).Pestered :=
    ⟨(Steady.new {}).agenda, rfl, rfl, nofun⟩
  obtain ⟨s, hrun, h, hsize⟩ := hnew.performAll rfl n
  obtain ⟨s', hn, hidle⟩ := h.handles (hsize.trans (Nat.zero_add n))
  exact ⟨s, s', hrun, hn, hidle⟩

/-- Of one line too many, the run tells that it has been left. -/
theorem announced_run_crowd :
    ∃ s n s', performAll (crowd (maxSteps + 1)) (.new {}) = .done () s ∧
      s.run = .done n s' ∧ s'.agenda.size ≠ 0 ∧ s.Announced n s' := by
  obtain ⟨s, s₀, hrun, hall, hidle⟩ := handles_crowd (maxSteps + 1)
  obtain ⟨m, s₁, hm, ⟨hdone, hle, -⟩ | ⟨_, -, hstop⟩⟩ := s.run_cases
  · obtain ⟨k, hk, hrest⟩ := hm.rest hall hidle
    refine ⟨s, m, _, hrun, hdone, ?_, (announced_run s).1 _ _ hdone⟩
    rw [agenda_ended]
    cases hrest with
    | nil => omega
    | cons hs _ => exact size_ne_zero_of_step hs
  · obtain ⟨k, -, hrest⟩ := hm.rest hall hidle
    exact (hrest.step_ne_overflow hidle hstop).elim

/-- A run may warn that it was stopped although nothing is left. -/
theorem not_forall_warned_iff :
    ¬∀ (config : Config) (operations : List Operation) (s s' : Session) (n : Nat),
      performAll operations (.new config) = .done () s → s.run = .done n s' →
      (s.Warned s' ↔ s'.agenda.size ≠ 0) := by
  intro h
  obtain ⟨s, s', hrun, hn, hidle⟩ := handles_crowd maxSteps
  have hleft := (h {} (crowd maxSteps) s _ _ hrun (hn.run_eq hidle (Nat.le_refl _))).mp
    ((warned_ended hn.records_eq).mpr rfl)
  rw [agenda_ended] at hleft
  exact hleft hidle

end Session

end Simulation

end ModemRelay
