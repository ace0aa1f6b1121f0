import ModemRelay.Proofs.Relay.Timers
import ModemRelay.Proofs.Simulation.Lanes
import ModemRelay.Simulation.Session

/-!
# Sessions whose first keys are given otherwise

The keys of queued events decide between events that are due at the same time, and the key of a
timer is its handle. Here the first `n` keys do not matter, as long as no timer has one of them and
the events come in the same order (`Agenda.Renumbered`): all keys that are given later are the same,
timers are armed and cancelled under the same handles, and the earliest event is the same one on
both sides. Whatever is done to the one agenda and to the other comes to the same, and so each step
of two sessions that differ in these keys alone leads to two that do (`Session.Renumbered.step`).
-/

namespace ModemRelay

namespace Outcome

/-- Two acts come to the same, and to states that are related. -/
inductive Alike {σ τ α : Type} (R : σ → τ → Prop) : Outcome σ α → Outcome τ α → Prop
  | done {a : α} {s : σ} {t : τ} (h : R s t) : Alike R (.done a s) (.done a t)
  | overflow {s : σ} {t : τ} (h : R s t) : Alike R (.overflow s) (.overflow t)

/-- States that stand beside the same, and are related. -/
def Beside {ρ σ τ : Type} (R : σ → τ → Prop) (x : ρ × σ) (y : ρ × τ) : Prop := x.1 = y.1 ∧ R x.2 y.2

namespace Alike

variable {σ σ' τ τ' α β : Type} {R : σ → τ → Prop} {o : Outcome σ α} {o' : Outcome τ α}

theorem andThen (h : Alike R o o') {next : α → σ → Outcome σ β} {next' : α → τ → Outcome τ β}
    (hn : ∀ a {s t}, R s t → Alike R (next a s) (next' a t)) :
    Alike R (o.andThen next) (o'.andThen next') := by
  cases h with
  | done h => exact hn _ h
  | overflow h => exact .overflow h

theorem map (h : Alike R o o') (f : α → β) : Alike R (o.map f) (o'.map f) := by
  cases h with
  | done h => exact .done h
  | overflow h => exact .overflow h

theorem mapState {S : σ' → τ' → Prop} {f : σ → σ'} {g : τ → τ'} (h : Alike R o o')
    (hf : ∀ {s t}, R s t → S (f s) (g t)) : Alike S (o.mapState f) (o'.mapState g) := by
  cases h with
  | done h => exact .done (hf h)
  | overflow h => exact .overflow (hf h)

theorem state (h : Alike R o o') : R o.state o'.state := by
  cases h with
  | done h | overflow h => exact h

/-- What is the same of related states is the same of what acts come to. -/
theorem mapState_eq (h : Alike R o o') {f : σ → σ'} {g : τ → σ'}
    (hf : ∀ {s t}, R s t → f s = g t) : o.mapState f = o'.mapState g := by
  cases h with
  | done h => exact congrArg (Outcome.done _) (hf h)
  | overflow h => exact congrArg Outcome.overflow (hf h)

end Alike

end Outcome

open Outcome

namespace Relay

variable {r : Relay} {n : Nat} {handle : TimerHandle} {input : Input}

/-- The timers of a relay have handles of at least `n`. -/
structure Above (n : Nat) (r : Relay) : Prop where
  sound : r.Sound
  handles : ∀ t ∈ r.pending.timers, n ≤ t.1.val

namespace Above

theorem deliver (h : r.Above n) (deliveries : Deliveries) : Above n { r with deliveries } :=
  ⟨h.sound.deliver deliveries, h.handles⟩

theorem halted (h : r.Above n) (input : Input) (deliveries : Deliveries) :
    (r.halted (r.step handle input).1 deliveries).Above n :=
  ⟨h.sound.halted (h.sound.move input) deliveries, h.handles⟩

theorem step (h : r.Above n) (hn : n ≤ handle.val) (input : Input) :
    (r.step handle input).1.Above n := by
  refine ⟨h.sound.step handle input, fun t ht => ?_⟩
  rcases ((h.sound.move input).retimed h.sound).sublist_or_eq with ⟨-, hs⟩ | ⟨-, -, heq⟩
  · exact h.handles t (hs.subset ht)
  · rw [heq, List.mem_append, List.mem_singleton] at ht
    rcases ht with ht | rfl
    · exact h.handles t ht
    · exact hn

/-- No other timers are cancelled. -/
theorem cancel (h : r.Above n) {timer : TimerHandle}
    (hc : .cancel timer ∈ (r.step handle input).2) : n ≤ timer.val := by
  have hrequest : .cancel timer ∈ requests (r.step handle input).2 :=
    List.mem_filter.mpr ⟨hc, rfl⟩
  obtain ⟨-, x, ht⟩ := Move.mem_timers (h.sound.move input) h.sound hrequest
  exact h.handles (timer, x) ht

end Above

end Relay

namespace Simulation
open Relay

variable {n : Nat}

/-! ## Agendas -/

namespace Agenda

/-- What a queued event is known by where the first `n` keys do not matter: its time, what happens,
and the key of a timer or of an event that has been given a later one. -/
def mark (n : Nat) (x : Slot × Input) : Duration × Input × Option Nat :=
  (x.1.due, x.2, if x.1.key < n ∧ x.2.timer? = none then none else some x.1.key)

/-- The queued events, earliest first, by what they are known by. -/
def outline (n : Nat) (a : Agenda) : List (Duration × Input × Option Nat) :=
  (a.lane some).map (mark n)

variable {a a' : Agenda} {key : Nat} {due : Duration} {event : Input} {d : Due}

theorem mark_eq_some_iff (hk : n ≤ key) {x : Slot × Input} :
    (mark n x).2.2 = some key ↔ x.1.key = key := by
  unfold mark
  dsimp only
  split
  · next hlt => simpa using Nat.ne_of_lt (Nat.lt_of_lt_of_le hlt.1 hk)
  · exact Option.some_inj

/-- An event that is posted comes behind all that are due no later. -/
theorem Keyed.outline_post (h : a.Keyed) :
    (a.post due event).outline n = (a.outline n).filter (·.1 ≤ due) ++
      mark n (⟨due, a.nextKey⟩, event) :: (a.outline n).filter (¬·.1 ≤ due) := by
  rw [outline, h.lane_post_split, outline, List.filter_map, List.filter_map, List.map_append,
    List.map_append, List.append_assoc]
  rfl

theorem Keyed.outline_cancel (h : a.Keyed) (hk : n ≤ key) :
    (a.cancel key).2.outline n = (a.outline n).filter (·.2.2 ≠ some key) := by
  rw [outline, h.lane_cancel, outline, List.filter_map]
  refine congrArg _ (List.filter_congr fun x _ => ?_)
  simp only [Function.comp_apply, ne_eq, mark_eq_some_iff hk]

theorem Keyed.cancel_fst_outline (h : a.Keyed) (hk : n ≤ key) :
    (a.cancel key).1 = true ↔ some key ∈ (a.outline n).map (·.2.2) := by
  rw [h.cancel_fst, outline, List.map_map, List.mem_map]
  constructor
  · rintro ⟨slot, hs, hkey⟩
    obtain ⟨event, hq⟩ := mem_queue_iff.mp hs
    exact ⟨(slot, event), mem_lane.mpr ⟨event, hq, rfl⟩, (mark_eq_some_iff hk).mpr hkey⟩
  · rintro ⟨x, hx, hkey⟩
    exact ⟨x.1, mem_queue_of_mem_lane hx, (mark_eq_some_iff hk).mp hkey⟩

theorem outline_popNext (h : a.popNext = some (d, a')) :
    a.outline n = mark n (⟨d.time, d.key⟩, d.event) :: a'.outline n := by
  rw [outline, lane_popNext h some]
  rfl

theorem popNext_eq_none_iff_outline : a.popNext = none ↔ a.outline n = [] := by
  constructor
  · intro hp
    rw [popNext_eq_none_iff, ← size_eq_zero_iff] at hp
    rw [outline, lane_of_size hp, List.map_nil]
  · intro ho
    cases hp : a.popNext with
    | none => rfl
    | some first => exact nomatch ho.symm.trans (outline_popNext hp)

/-- The one agenda is the other one, but that the first `n` keys have been given otherwise. -/
structure Renumbered (n : Nat) (a a' : Agenda) : Prop where
  keyed : a.Keyed
  keyed' : a'.Keyed
  now : a.now = a'.now
  nextKey : a.nextKey = a'.nextKey
  le_nextKey : n ≤ a.nextKey
  outline : a.outline n = a'.outline n

namespace Renumbered

theorem post (h : Renumbered n a a') : Renumbered n (a.post due event) (a'.post due event) where
  keyed := h.keyed.post
  keyed' := h.keyed'.post
  now := h.now
  nextKey := congrArg (· + 1) h.nextKey
  le_nextKey := Nat.le_succ_of_le h.le_nextKey
  outline := by rw [h.keyed.outline_post, h.keyed'.outline_post, h.outline, h.nextKey]

theorem takeKey (h : Renumbered n a a') : Renumbered n a.takeKey a'.takeKey where
  keyed := h.keyed.takeKey
  keyed' := h.keyed'.takeKey
  now := h.now
  nextKey := congrArg (· + 1) h.nextKey
  le_nextKey := Nat.le_succ_of_le h.le_nextKey
  outline := h.outline

theorem schedule (h : Renumbered n a a') (delay : Duration) (event : Input) :
    Alike (Renumbered n) (a.schedule delay event) (a'.schedule delay event) := by
  cases hdue : a.now.add? delay with
  | some due =>
    have hleft : a.schedule delay event = .done a.nextKey (a.post due event) :=
      schedule_eq_done_iff.mpr ⟨due, hdue, rfl, rfl⟩
    have hright : a'.schedule delay event = .done a.nextKey (a'.post due event) :=
      schedule_eq_done_iff.mpr ⟨due, h.now ▸ hdue, h.nextKey, rfl⟩
    rw [hleft, hright]
    exact .done h.post
  | none =>
    have hdue' : a'.now.add? delay = none := h.now ▸ hdue
    simp only [Agenda.schedule, hdue, hdue']
    exact .overflow h.takeKey

theorem cancel (h : Renumbered n a a') (hk : n ≤ key) :
    (a.cancel key).1 = (a'.cancel key).1 ∧ Renumbered n (a.cancel key).2 (a'.cancel key).2 := by
  constructor
  · rw [Bool.eq_iff_iff, h.keyed.cancel_fst_outline hk, h.keyed'.cancel_fst_outline hk, h.outline]
  · refine ⟨h.keyed.cancel key, h.keyed'.cancel key, ?_, ?_, ?_, ?_⟩
    · rw [now_cancel, now_cancel, h.now]
    · rw [nextKey_cancel, nextKey_cancel, h.nextKey]
    · rw [nextKey_cancel]
      exact h.le_nextKey
    · rw [h.keyed.outline_cancel hk, h.keyed'.outline_cancel hk, h.outline]

/-- **The earliest event is the same**, and so is its key where it is that of a timer. -/
theorem popNext (h : Renumbered n a a') :
    a.popNext = none ∧ a'.popNext = none ∨
      ∃ d d' b b', a.popNext = some (d, b) ∧ a'.popNext = some (d', b') ∧
        d.event = d'.event ∧ (∀ x, d.event = .timer x → d.key = d'.key) ∧ Renumbered n b b' := by
  have hnone : a.popNext = none ↔ a'.popNext = none := by
    rw [popNext_eq_none_iff_outline (n := n), popNext_eq_none_iff_outline (n := n), h.outline]
  cases hp : a.popNext with
  | none => exact .inl ⟨rfl, hnone.mp hp⟩
  | some first =>
    cases hp' : a'.popNext with
    | none => exact nomatch hp.symm.trans (hnone.mpr hp')
    | some first' =>
      obtain ⟨d, b⟩ := first
      obtain ⟨d', b'⟩ := first'
      have ho := h.outline
      rw [outline_popNext hp, outline_popNext hp'] at ho
      obtain ⟨hmark, hrest⟩ := List.cons.inj ho
      simp only [mark, Prod.mk.injEq] at hmark
      obtain ⟨htime, hevent, hkey⟩ := hmark
      refine .inr ⟨d, d', b, b', rfl, rfl, hevent, fun x hx => ?_, ?_⟩
      · simpa [← hevent, hx] using hkey
      · refine ⟨h.keyed.popNext hp, h.keyed'.popNext hp', ?_, ?_, ?_, hrest⟩
        · rw [popNext_snd hp, popNext_snd hp', h.now, htime]
        · rw [nextKey_of_popNext hp, nextKey_of_popNext hp', h.nextKey]
        · rw [nextKey_of_popNext hp]
          exact h.le_nextKey

end Renumbered

end Agenda

/-! ## What the parties share -/

/-- The agendas differ in the first `n` keys alone, and all else is the same. -/
structure Environment.Renumbered (n : Nat) (env env' : Environment) : Prop where
  agenda : env.agenda.Renumbered n env'.agenda
  random : env.random = env'.random
  transcript : env.transcript = env'.transcript

namespace Environment.Renumbered

variable {env env' : Environment}

theorem record (h : env.Renumbered n env') (trace : Trace) :
    (env.record trace).Renumbered n (env'.record trace) where
  agenda := h.agenda
  random := h.random
  transcript := by rw [Environment.record, Environment.record, h.transcript, h.agenda.now]

theorem schedule (h : env.Renumbered n env') (delay : Duration) (event : Input) :
    Alike (Environment.Renumbered n) (env.schedule delay event) (env'.schedule delay event) :=
  (h.agenda.schedule delay event).mapState fun ha => ⟨ha, h.random, h.transcript⟩

theorem jitter (h : env.Renumbered n env') (max : Duration) :
    Beside (Environment.Renumbered n) (env.jitter max) (env'.jitter max) := by
  unfold Environment.jitter
  rw [← h.random]
  exact ⟨rfl, h.agenda, rfl, h.transcript⟩

theorem arm (h : env.Renumbered n env') (delay : Duration) (x : ExchangeId) :
    Alike (Environment.Renumbered n) (env.arm delay x) (env'.arm delay x) :=
  (h.schedule delay (.timer x)).andThen fun key {_ _} h => .done (h.record (.armed ⟨key⟩ x))

theorem disarm (h : env.Renumbered n env') {timer : TimerHandle} (hn : n ≤ timer.val) :
    (env.disarm timer).Renumbered n (env'.disarm timer) := by
  obtain ⟨hlive, hagenda⟩ := h.agenda.cancel hn
  have hcancelled : Renumbered n { env with agenda := (env.agenda.cancel timer.val).2 }
      { env' with agenda := (env'.agenda.cancel timer.val).2 } := ⟨hagenda, h.random, h.transcript⟩
  unfold Environment.disarm
  dsimp only
  rw [← hlive]
  exact hcancelled.record _

end Environment.Renumbered

namespace Responder

variable {env env' : Environment}

theorem answer_renumbered (r : Responder) (command : String) (h : env.Renumbered n env') :
    Alike (Beside (Environment.Renumbered n)) (r.answer command env)
      (r.answer command env') := by
  unfold answer
  cases r.config.response? command with
  | none => exact .done ⟨rfl, h⟩
  | some response =>
    obtain ⟨hdelay, henv⟩ := h.jitter (.ofMillis r.config.jitter)
    have hnow := henv.agenda.now
    dsimp only
    unfold Environment.now
    rw [← hdelay, ← hnow]
    cases ((Duration.ofMillis r.config.latency).add? _).bind _ with
    | none => exact .overflow ⟨rfl, henv⟩
    | some ready => exact .done ⟨rfl, henv⟩

theorem hear_renumbered (r : Responder) (source : Endpoint) (command : String)
    (h : env.Renumbered n env') :
    Alike (Beside (Environment.Renumbered n)) (r.hear source command env)
      (r.hear source command env') := by
  refine (r.answer_renumbered command h).andThen fun reply {x y} hxy => ?_
  obtain ⟨r₁, env₁⟩ := x
  obtain ⟨r₂, env₂⟩ := y
  obtain ⟨rfl, henv⟩ := hxy
  cases reply with
  | none => exact .done ⟨rfl, henv⟩
  | some found =>
    exact ((henv.schedule found.1 (.line source found.2)).map fun _ => ()).mapState
      fun henv => ⟨rfl, henv⟩

end Responder

/-! ## The parties -/

/-- The agendas differ in the first `n` keys alone, and all else is the same. -/
structure Peers.Renumbered (n : Nat) (p p' : Peers) : Prop where
  env : p.env.Renumbered n p'.env
  modem : p.modem = p'.modem
  model : p.model = p'.model
  closed : p.closed = p'.closed
  log : p.log = p'.log

namespace Peers.Renumbered

variable {p p' : Peers} {a : Action} {actions : List Action} {d : Deliveries} {r : Relay}

theorem withEnv (h : p.Renumbered n p') {env env' : Environment} (henv : env.Renumbered n env') :
    Peers.Renumbered n { p with env } { p' with env := env' } where
  env := henv
  modem := h.modem
  model := h.model
  closed := h.closed
  log := h.log

theorem note (h : p.Renumbered n p') (notice : Notice) :
    (p.note notice).Renumbered n (p'.note notice) where
  env := h.env
  modem := h.modem
  model := h.model
  closed := h.closed
  log := congrArg (·.push notice) h.log

theorem send (h : p.Renumbered n p') (target : Endpoint) (line : String) :
    Alike (Peers.Renumbered n) (p.send target line) (p'.send target line) := by
  unfold Peers.send
  rw [← h.closed]
  split
  · exact .done h
  · have henv := h.env.record (.sent target line)
    dsimp only
    refine Alike.map ?_ fun _ => Reply.accepted
    cases target with
    | modemManager => exact .done ⟨henv, h.modem, h.model, rfl, h.log⟩
    | modem =>
      dsimp only
      rw [← h.modem]
      exact (p.modem.hear_renumbered .modem line henv).mapState
        fun hstate => ⟨hstate.2, hstate.1, h.model, rfl, h.log⟩
    | model =>
      dsimp only
      rw [← h.model]
      exact (p.model.hear_renumbered .model line henv).mapState
        fun hstate => ⟨hstate.2, h.modem, hstate.1, rfl, h.log⟩

theorem arm (h : p.Renumbered n p') (delay : Duration) (x : ExchangeId) :
    Alike (Peers.Renumbered n) (p.arm delay x) (p'.arm delay x) :=
  (h.env.arm delay x).mapState h.withEnv

/-- **An action comes to the same**, if it does not cancel one of the first `n` keys. -/
theorem perform (h : p.Renumbered n p') (hc : ∀ timer, a = .cancel timer → n ≤ timer.val) :
    Alike (Beside (Peers.Renumbered n)) (Relay.perform host a d p)
      (Relay.perform host a d p') := by
  cases a with
  | send target line =>
    have hsend : Alike (Peers.Renumbered n) (host.send target line p) (host.send target line p') :=
      h.send target line
    unfold Relay.perform
    dsimp only
    generalize host.send target line p = o at hsend
    generalize host.send target line p' = o' at hsend
    cases hsend with
    | @done reply _ _ hp =>
      cases reply with
      | accepted => exact .done ⟨rfl, hp⟩
      | refused cause => exact .done ⟨rfl, hp.note _⟩
    | overflow hp => exact .overflow ⟨rfl, hp⟩
  | undeliverable | note => exact .done ⟨rfl, h.note _⟩
  | arm delay x =>
    exact ((h.arm delay x).map fun _ => ()).mapState fun hp => ⟨rfl, hp⟩
  | cancel timer =>
    exact .done ⟨rfl, h.withEnv (h.env.disarm (hc timer rfl))⟩
  | report f =>
    have hreported : (p.report f).Renumbered n (p'.report f) :=
      h.withEnv (h.env.record (.failed f))
    exact .done ⟨rfl, hreported.note _⟩

theorem performAll (h : p.Renumbered n p')
    (hc : ∀ timer, .cancel timer ∈ actions → n ≤ timer.val) :
    Alike (Beside (Peers.Renumbered n)) (Relay.performAll host actions d p)
      (Relay.performAll host actions d p') := by
  induction actions generalizing d p p' with
  | nil => exact .done ⟨rfl, h⟩
  | cons a rest ih =>
    have hfirst := h.perform (d := d) fun timer ha => hc timer (ha ▸ List.mem_cons_self)
    unfold Relay.performAll
    generalize Relay.perform host a d p = o at hfirst
    generalize Relay.perform host a d p' = o' at hfirst
    cases hfirst with
    | @done _ x y hxy =>
      obtain ⟨d₁, p₁⟩ := x
      obtain ⟨d₂, p₂⟩ := y
      obtain ⟨rfl, hp⟩ := hxy
      exact ih hp fun timer ha => hc timer (List.mem_cons_of_mem _ ha)
    | overflow hxy => exact .overflow hxy

/-- **A call of the relay comes to the same.** The timers that it arms get later handles. -/
theorem handle (h : p.Renumbered n p') (hr : r.Above n) (input : Input) :
    Alike (fun x y => Beside (Peers.Renumbered n) x y ∧ x.1.Above n)
      (r.handle host input p) (r.handle host input p') := by
  have hnext : host.nextTimer p' = host.nextTimer p :=
    congrArg TimerHandle.mk h.env.agenda.nextKey.symm
  have hn : n ≤ (host.nextTimer p).val := h.env.agenda.le_nextKey
  have hcancel : ∀ timer, .cancel timer ∈ (r.step (host.nextTimer p) input).2 → n ≤ timer.val :=
    fun _ => hr.cancel
  have hall := h.performAll (d := r.deliveries) hcancel
  unfold Relay.handle
  rw [hnext]
  dsimp only
  generalize Relay.performAll host _ _ p = o at hall
  generalize Relay.performAll host _ _ p' = o' at hall
  cases hall with
  | @done _ x y hxy =>
    obtain ⟨d₁, p₁⟩ := x
    obtain ⟨d₂, p₂⟩ := y
    obtain ⟨rfl, hp⟩ := hxy
    exact .done ⟨⟨rfl, hp⟩, (hr.step hn input).deliver d₁⟩
  | @overflow x y hxy =>
    obtain ⟨d₁, p₁⟩ := x
    obtain ⟨d₂, p₂⟩ := y
    obtain ⟨rfl, hp⟩ := hxy
    exact .overflow ⟨⟨rfl, hp⟩, hr.halted input d₁⟩

end Peers.Renumbered

/-! ## Sessions -/

/-- The agendas differ in the first `n` keys alone, and all else is the same. -/
structure Session.Renumbered (n : Nat) (s s' : Session) : Prop where
  relay : s.relay = s'.relay
  above : s.relay.Above n
  peers : s.peers.Renumbered n s'.peers
  steps : s.steps = s'.steps

namespace Session.Renumbered

variable {s s' : Session}

theorem mapEnv (h : s.Renumbered n s') {f f' : Environment → Environment}
    (hf : (f s.peers.env).Renumbered n (f' s'.peers.env)) :
    (s.mapEnv f).Renumbered n (s'.mapEnv f') where
  relay := h.relay
  above := h.above
  peers := h.peers.withEnv hf
  steps := h.steps

theorem feed (h : s.Renumbered n s') (input : Input) :
    Alike (Session.Renumbered n) (s.feed input) (s'.feed input) := by
  unfold Session.feed
  rw [← h.relay]
  exact (h.peers.handle h.above input).mapState fun ⟨hxy, habove⟩ =>
    ⟨hxy.1, habove, hxy.2, h.steps⟩

theorem setMode (h : s.Renumbered n s') (mode : Mode) :
    Alike (Session.Renumbered n) (s.setMode mode) (s'.setMode mode) := by
  refine (h.feed (.setMode mode)).andThen fun _ {s₁ s₁'} h₁ => ?_
  rw [← h₁.relay]
  exact .done (h₁.mapEnv (h₁.peers.env.record _))

theorem dispatch (h : s.Renumbered n s') {d d' : Due} (he : d.event = d'.event)
    (hk : ∀ x, d.event = .timer x → d.key = d'.key) :
    Alike (Session.Renumbered n) (s.dispatch d) (s'.dispatch d') := by
  unfold Session.dispatch
  rw [← he]
  cases hevent : d.event with
  | line source line => exact (h.mapEnv (h.peers.env.record _)).feed _
  | timer x =>
    dsimp only
    rw [← hk x hevent]
    exact (h.mapEnv (h.peers.env.record _)).feed _
  | setMode mode => exact (h.setMode mode).map fun _ => ()

/-- **Each step comes to the same.** -/
theorem step (h : s.Renumbered n s') :
    Alike (Session.Renumbered n) s.step s'.step := by
  unfold Session.step
  rcases h.peers.env.agenda.popNext with
    ⟨hnone, hnone'⟩ | ⟨d, d', b, b', hp, hp', hevent, hkey, hrest⟩
  · rw [hnone, hnone']
    exact .done h
  · rw [hp, hp']
    have hnext : (s.mapEnv ({ · with agenda := b })).Renumbered n
        (s'.mapEnv ({ · with agenda := b' })) :=
      h.mapEnv ⟨hrest, h.peers.env.random, h.peers.env.transcript⟩
    have hcounted : Session.Renumbered n
        { s.mapEnv ({ · with agenda := b }) with steps := s.steps + 1 }
        { s'.mapEnv ({ · with agenda := b' }) with steps := s'.steps + 1 } :=
      ⟨hnext.relay, hnext.above, hnext.peers, congrArg (· + 1) h.steps⟩
    exact (hcounted.dispatch hevent hkey).map fun _ => true

theorem runSteps (h : s.Renumbered n s') (budget handled : Nat) :
    Alike (Session.Renumbered n) (Session.runSteps budget handled s)
      (Session.runSteps budget handled s') := by
  induction budget generalizing handled s s' with
  | zero => exact .done h
  | succ budget ih =>
    have hstep := h.step
    unfold Session.runSteps
    generalize s.step = o at hstep
    generalize s'.step = o' at hstep
    cases hstep with
    | @done went _ _ h₁ =>
      cases went with
      | true => exact ih h₁ _
      | false => exact .done h₁
    | overflow h₁ => exact .overflow h₁

/-- **A run comes to the same**, also where it is cut off. -/
theorem run (h : s.Renumbered n s') : Alike (Session.Renumbered n) s.run s'.run := by
  refine (h.runSteps maxSteps 0).andThen fun handled {s₁ s₁'} h₁ => ?_
  have hseed : s₁.peers.env.random = s₁'.peers.env.random := h₁.peers.env.random
  rw [← hseed]
  refine .done ?_
  split
  · exact ⟨h₁.relay, h₁.above, h₁.peers.note _, h₁.steps⟩
  · exact h₁

end Session.Renumbered

end Simulation

end ModemRelay
