import ModemRelay.Proofs.Relay.Move
import ModemRelay.Proofs.Simulation.Lanes
import ModemRelay.Simulation.Session

/-!
# What the peers do for a relay

A scene is what counts of the peers of a relay: the agenda, the transcript, and the times up to
which the responders have promised answers. `Scene.Acts` lists what carrying out an action can do to
it; only when an answer comes is left open, to be no earlier than now and than the promises before.
`Peers.performAll_done` says that the peers carry out the requests of a step one after the other,
and `Peers.performAll_overflow` how they stop half way.
-/

namespace ModemRelay.Simulation
open Relay

/-- The longest that an answer takes where none has been promised before: the longest latency and as
much jitter. -/
def Responder.longest : Duration := ⟨2 * Duration.millisSpan, by decide⟩

/-- The agenda, the transcript, and when each endpoint will have given its answers so far. -/
structure Scene where
  agenda : Agenda
  transcript : List Observed
  busy : Endpoint → Duration

namespace Scene

/-- Adds an observation at the current time. -/
def record (σ : Scene) (trace : Trace) : Scene :=
  { σ with transcript := σ.transcript ++ [⟨σ.agenda.now, trace⟩] }

/-- Queues an event at a time. -/
def post (σ : Scene) (due : Duration) (event : Input) : Scene :=
  { σ with agenda := σ.agenda.post due event }

/-- Has an endpoint promise an answer at a time. -/
def promise (σ : Scene) (source : Endpoint) (due : Duration) : Scene :=
  { σ with busy := fun e => if e = source then due else σ.busy e }

/-- Cancels a timer. -/
def disarm (σ : Scene) (timer : TimerHandle) : Scene :=
  { σ with agenda := (σ.agenda.cancel timer.val).2 }.record
    (.cancelled timer (σ.agenda.cancel timer.val).1)

/-- What carrying out an action does to a scene whose endpoints answer by `answer?`. -/
inductive Acts (answer? : Endpoint → String → Option String) : Action → Scene → Scene → Prop
  | silent (ha : answer? target line = none) :
    Acts answer? (.send target line) σ (σ.record (.sent target line))
  | asked (ha : answer? target line = some answer) (hn : σ.agenda.now ≤ due)
    (hb : σ.busy target ≤ due)
    (hl : due ≤ σ.busy target ∨
      due.nanos ≤ σ.agenda.now.nanos + Responder.longest.nanos) :
    Acts answer? (.send target line) σ
      (((σ.record (.sent target line)).post due (.line target answer)).promise target due)
  | armed (hd : σ.agenda.now.add? delay = some due) :
    Acts answer? (.arm delay x) σ
      ((σ.post due (.timer x)).record (.armed ⟨σ.agenda.nextKey⟩ x))
  | cancelled : Acts answer? (.cancel timer) σ (σ.disarm timer)
  | reported : Acts answer? (.report f) σ (σ.record (.failed f))
  | undelivered : Acts answer? (.undeliverable line m) σ σ

/-- What carrying out actions in order does to a scene. -/
inductive ActsAll (answer? : Endpoint → String → Option String) :
    List Action → Scene → Scene → Prop
  | nil : ActsAll answer? [] σ σ
  | cons (h : Acts answer? a σ σ') (hs : ActsAll answer? as σ' σ'') :
    ActsAll answer? (a :: as) σ σ''

/-- How an action can stop half way: a time would be too late, be it that of an answer or that of a
timer. A line has been sent all the same, and the key of a timer has been used up. -/
inductive Stops : Action → Scene → Scene → Prop
  | onLine (hne : target ≠ .modemManager) (hl : σ.agenda.now.add? Responder.longest = none) :
    Stops (.send target line) σ (σ.record (.sent target line))
  | onTimer (hl : σ.agenda.now.add? delay = none) :
    Stops (.arm delay x) σ { σ with agenda := σ.agenda.takeKey }

theorem Stops.isNote_eq {a : Action} {σ σ' : Scene} (h : Stops a σ σ') : a.isNote = false := by
  cases h <;> rfl

/-- What every action keeps holds after all of them. -/
theorem ActsAll.invariant {answer? : Endpoint → String → Option String} {I : Scene → Prop}
    {actions : List Action} {σ σ' : Scene} (h : ActsAll answer? actions σ σ')
    (hact : ∀ {a σ σ'}, I σ → Acts answer? a σ σ' → I σ') (hI : I σ) : I σ' := by
  induction h with
  | nil => exact hI
  | cons ha _ ih => exact ih (hact hI ha)

theorem ActsAll.eq_of_nil {answer? : Endpoint → String → Option String} {σ σ' : Scene}
    (h : ActsAll answer? [] σ σ') : σ' = σ := by
  cases h
  rfl

end Scene

/-! ## Responders -/

/-- A draw changes the random stream alone. -/
theorem Environment.jitter_eq (env : Environment) (max : Duration) :
    ∃ delay random, env.jitter max = (delay, { env with random }) ∧ delay ≤ max := by
  have hle := env.random.jitter_le max
  unfold jitter
  cases hdraw : env.random.jitter max with
  | mk delay random =>
    rw [hdraw] at hle
    exact ⟨delay, random, rfl, hle⟩

theorem Environment.schedule_eq_done_iff {env env' : Environment} {delay : Duration}
    {event : Input} {key : Nat} :
    env.schedule delay event = .done key env' ↔
      ∃ due, env.now.add? delay = some due ∧ key = env.agenda.nextKey ∧
        env' = { env with agenda := env.agenda.post due event } := by
  rw [schedule, Outcome.mapState_eq_done]
  constructor
  · rintro ⟨agenda, ha, rfl⟩
    obtain ⟨due, hd, rfl, rfl⟩ := Agenda.schedule_eq_done_iff.mp ha
    exact ⟨due, hd, rfl, rfl⟩
  · rintro ⟨due, hd, rfl, rfl⟩
    exact ⟨_, Agenda.schedule_eq_done_iff.mpr ⟨due, hd, rfl, rfl⟩, rfl⟩

namespace Responder

variable {r r' : Responder} {source : Endpoint} {command : String} {env env' : Environment}

/-- Latency and jitter together can always be set. -/
theorem add?_le_longest (latency : UInt64) {jitter : UInt64} {delay : Duration}
    (hd : delay ≤ .ofMillis jitter) :
    ∃ sum, (Duration.ofMillis latency).add? delay = some sum ∧ sum ≤ longest := by
  have hlatency := Duration.nanos_ofMillis_le latency
  have hjitter := Nat.le_trans hd (Duration.nanos_ofMillis_le jitter)
  have hspan : longest.nanos = 2 * Duration.millisSpan := rfl
  have hbound := longest.bounded
  cases hsum : (Duration.ofMillis latency).add? delay with
  | none =>
    rw [Duration.add?_eq_none_iff] at hsum
    omega
  | some sum =>
    rw [Duration.add?_eq_some_iff] at hsum
    refine ⟨sum, rfl, ?_⟩
    rw [Duration.le_def]
    omega

/-- What a request comes to: nothing where the command has no answer, and otherwise an answer after
the latency and some jitter, unless it has to wait for the answers before it. -/
theorem answer_cases {reply : Option (Duration × String)}
    (h : r.answer command env = .done reply (r', env')) :
    r.config.response? command = none ∧ reply = none ∧ r' = r ∧ env' = env ∨
      ∃ response delay ready random, r.config.response? command = some response ∧
        Duration.ofMillis r.config.latency ≤ delay ∧
        delay.nanos ≤ (Duration.ofMillis r.config.latency).nanos +
          (Duration.ofMillis r.config.jitter).nanos ∧
        env.now.add? delay = some ready ∧ r' = { r with busyUntil := max ready r.busyUntil } ∧
        env' = { env with random } ∧ reply = some (r'.busyUntil - env.now, response) := by
  obtain ⟨jitter, random, hj, hle⟩ := env.jitter_eq (.ofMillis r.config.jitter)
  unfold answer at h
  rw [hj] at h
  cases hr : r.config.response? command with
  | none =>
    simp only [hr] at h
    cases h
    exact .inl ⟨rfl, rfl, rfl, rfl⟩
  | some response =>
    simp only [hr] at h
    split at h
    · cases h
    · next ready hready =>
      cases h
      obtain ⟨delay, hdelay, hready⟩ := Option.bind_eq_some_iff.mp hready
      rw [Duration.add?_eq_some_iff] at hdelay
      refine .inr ⟨response, delay, ready, random, rfl, ?_, ?_, hready, rfl, rfl, rfl⟩
      · rw [Duration.le_def, hdelay]
        exact Nat.le_add_right ..
      · rw [hdelay]
        exact Nat.add_le_add_left hle _

theorem answer_done {reply : Option (Duration × String)}
    (h : r.answer command env = .done reply (r', env')) :
    r'.config = r.config ∧ env'.agenda = env.agenda ∧ env'.transcript = env.transcript ∧
      (r.config.response? command = none ∧ reply = none ∧ r'.busyUntil = r.busyUntil ∨
        ∃ response, r.config.response? command = some response ∧ env.now ≤ r'.busyUntil ∧
          r.busyUntil ≤ r'.busyUntil ∧
          (r'.busyUntil ≤ r.busyUntil ∨
            r'.busyUntil.nanos ≤ env.now.nanos + longest.nanos) ∧
          reply = some (r'.busyUntil - env.now, response)) := by
  rcases answer_cases h with ⟨hr, rfl, rfl, rfl⟩ |
    ⟨response, delay, ready, random, hr, -, hdelay, hready, rfl, rfl, rfl⟩
  · exact ⟨rfl, rfl, rfl, .inl ⟨hr, rfl, rfl⟩⟩
  · have hlatency := Duration.nanos_ofMillis_le r.config.latency
    have hjitter := Duration.nanos_ofMillis_le r.config.jitter
    have hspan : longest.nanos = 2 * Duration.millisSpan := rfl
    rw [Duration.add?_eq_some_iff] at hready
    refine ⟨rfl, rfl, rfl, .inr ⟨response, hr, ?_, ?_, ?_, rfl⟩⟩
    · rw [Duration.le_def, Duration.nanos_max, hready]
      exact Nat.le_trans (Nat.le_add_right ..) (Nat.le_max_left ..)
    · exact Duration.le_max_right ..
    · rw [Duration.le_def, Duration.nanos_max, Nat.max_def]
      split <;> omega

/-- Only a command with an answer is stopped at, where the latency and all the jitter would lead to
a time out of range. -/
theorem late_of_answer (h : r.answer command env = .overflow (r', env')) :
    ∃ response random sum, r.config.response? command = some response ∧ r' = r ∧
      env' = { env with random } ∧
      (Duration.ofMillis r.config.latency).add? (.ofMillis r.config.jitter) = some sum ∧
      sum ≤ longest ∧ env.now.add? sum = none := by
  obtain ⟨jitter, random, hj, hle⟩ := env.jitter_eq (.ofMillis r.config.jitter)
  obtain ⟨delay, hdelay, -⟩ := add?_le_longest r.config.latency hle
  have hmost : Duration.ofMillis r.config.jitter ≤ .ofMillis r.config.jitter := Nat.le_refl _
  obtain ⟨sum, hsum, hlongest⟩ := add?_le_longest r.config.latency hmost
  unfold answer at h
  rw [hj] at h
  split at h
  · cases h
  · next response hr =>
    dsimp only at h
    split at h
    · next hlate =>
      cases h
      refine ⟨response, random, sum, hr, rfl, rfl, hsum, hlongest, ?_⟩
      rw [hdelay, Option.bind_some, Duration.add?_eq_none_iff] at hlate
      rw [Duration.add?_eq_some_iff] at hdelay hsum
      rw [Duration.le_def] at hle
      have hmore : delay.nanos ≤ sum.nanos := by omega
      exact Duration.add?_eq_none_iff.mpr (Nat.le_trans hlate (Nat.add_le_add_left hmore _))
    · cases h

theorem answer_overflow (h : r.answer command env = .overflow (r', env')) :
    r' = r ∧ env'.agenda = env.agenda ∧ env'.transcript = env.transcript ∧
      env.now.add? longest = none := by
  obtain ⟨-, random, sum, -, rfl, rfl, -, hlongest, hlate⟩ := late_of_answer h
  refine ⟨rfl, rfl, rfl, ?_⟩
  rw [Duration.add?_eq_none_iff] at hlate ⊢
  exact Nat.le_trans hlate (Nat.add_le_add_left hlongest _)

/-- The time of an answer that is due later can always be set. -/
theorem schedule_sub {due : Duration} {event : Input} (hd : env.now ≤ due) :
    env.schedule (due - env.now) event =
      .done env.agenda.nextKey { env with agenda := env.agenda.post due event } := by
  refine Environment.schedule_eq_done_iff.mpr ⟨due, Duration.add?_eq_some_iff.mpr ?_, rfl, rfl⟩
  rw [Duration.le_def] at hd
  rw [Duration.nanos_sub]
  exact (Nat.add_sub_cancel' hd).symm

theorem hear_done (h : r.hear source command env = .done () (r', env')) :
    r'.config = r.config ∧ env'.transcript = env.transcript ∧
      (r.config.response? command = none ∧ r'.busyUntil = r.busyUntil ∧
          env'.agenda = env.agenda ∨
        ∃ response, r.config.response? command = some response ∧ env.now ≤ r'.busyUntil ∧
          r.busyUntil ≤ r'.busyUntil ∧
          (r'.busyUntil ≤ r.busyUntil ∨
            r'.busyUntil.nanos ≤ env.now.nanos + longest.nanos) ∧
          env'.agenda = env.agenda.post r'.busyUntil (.line source response)) := by
  obtain ⟨reply, ⟨r₁, env₁⟩, ha, h⟩ := Outcome.andThen_eq_done.mp h
  obtain ⟨hc, hagenda, ht, hreply⟩ := answer_done ha
  rcases hreply with ⟨hr, rfl, hb⟩ | ⟨response, hr, hn, hb, hl, rfl⟩
  · cases h
    exact ⟨hc, ht, .inl ⟨hr, hb, hagenda⟩⟩
  · have hnow : env₁.now = env.now := congrArg Agenda.now hagenda
    simp only [← hnow, schedule_sub (hnow ▸ hn), Outcome.map, Outcome.mapState] at h
    cases h
    exact ⟨hc, ht, .inr ⟨response, hr, hn, hb, hl, by rw [hagenda]⟩⟩

/-- Only the time of its own answer can stop a responder. -/
theorem hear_overflow (h : r.hear source command env = .overflow (r', env')) :
    r' = r ∧ env'.agenda = env.agenda ∧ env'.transcript = env.transcript ∧
      env.now.add? longest = none := by
  rcases Outcome.andThen_eq_overflow.mp h with ha | ⟨reply, ⟨r₁, env₁⟩, ha, h⟩
  · exact answer_overflow ha
  · obtain ⟨-, hagenda, -, hreply⟩ := answer_done ha
    rcases hreply with ⟨-, rfl, -⟩ | ⟨response, -, hn, -, -, rfl⟩
    · cases h
    · have hnow : env₁.now = env.now := congrArg Agenda.now hagenda
      simp [← hnow, schedule_sub (hnow ▸ hn), Outcome.map, Outcome.mapState] at h

end Responder

/-! ## Peers -/

namespace Peers

/-- The scene of the peers. The client promises nothing. -/
def scene (p : Peers) : Scene where
  agenda := p.env.agenda
  transcript := p.env.transcript.toList
  busy
    | .modemManager => .zero
    | .modem => p.modem.busyUntil
    | .model => p.model.busyUntil

/-- What an endpoint answers to a line. -/
def answer? (p : Peers) : Endpoint → String → Option String
  | .modemManager, _ => none
  | .modem, line => p.modem.config.response? line
  | .model, line => p.model.config.response? line

/-- What no action changes. -/
def settings (p : Peers) : List Endpoint × Responder.Config × Responder.Config :=
  (p.closed, p.modem.config, p.model.config)

variable {p p' : Peers} {target : Endpoint} {line : String} {d d' : Deliveries} {a : Action}

theorem closed_congr (h : p'.settings = p.settings) : p'.closed = p.closed := congrArg (·.1) h

theorem answer?_congr (h : p'.settings = p.settings) : p'.answer? = p.answer? := by
  simp only [settings, Prod.mk.injEq] at h
  funext e line
  cases e <;> simp only [answer?, h]

/-- What a responder that has been handed a line does to the scene. -/
private theorem acts_of_hear {answer? : Endpoint → String → Option String} {r r' : Responder}
    {env env' : Environment} {σ σ' : Scene}
    (h : r.hear target line (env.record (.sent target line)) = .done () (r', env'))
    (hr : answer? target line = r.config.response? line) (ha : σ.agenda = env.agenda)
    (ht : σ.transcript = env.transcript.toList) (hb : σ.busy target = r.busyUntil)
    (ha' : σ'.agenda = env'.agenda) (ht' : σ'.transcript = env'.transcript.toList)
    (hb' : σ'.busy = fun e => if e = target then r'.busyUntil else σ.busy e) :
    Scene.Acts answer? (.send target line) σ σ' := by
  obtain ⟨agenda, transcript, busy⟩ := σ
  obtain ⟨agenda', transcript', busy'⟩ := σ'
  subst ha ht ha' ht' hb'
  obtain ⟨-, htr, hheard⟩ := Responder.hear_done h
  rw [htr]
  rcases hheard with ⟨hnone, hbusy, hagenda⟩ | ⟨response, hsome, hn, hbusy, hl, hagenda⟩
  · have hsame : (fun e => if e = target then r'.busyUntil else busy e) = busy := by
      funext e
      split
      · next he => exact he ▸ hbusy.trans hb.symm
      · rfl
    rw [hsame, hagenda, Environment.record, Array.toList_push]
    exact .silent (hr.trans hnone)
  · rw [hagenda, Environment.record, Array.toList_push]
    exact .asked (hr.trans hsome) hn (hb ▸ hbusy) (hb ▸ hl)

theorem send_done {reply : Reply} (hc : p.closed = [])
    (h : p.send target line = .done reply p') :
    reply = .accepted ∧ p'.settings = p.settings ∧
      Scene.Acts p.answer? (.send target line) p.scene p'.scene := by
  unfold send at h
  rw [if_neg (by simp [hc])] at h
  obtain ⟨_, htaken, rfl⟩ := Outcome.map_eq_done.mp h
  refine ⟨rfl, ?_⟩
  cases target with
  | modemManager =>
    cases htaken
    refine ⟨rfl, ?_⟩
    simp only [scene, Environment.record, Array.toList_push]
    exact .silent rfl
  | modem | model =>
    obtain ⟨⟨r, env⟩, hheard, rfl⟩ := Outcome.mapState_eq_done.mp htaken
    refine ⟨by simp [settings, (Responder.hear_done hheard).1], ?_⟩
    refine acts_of_hear hheard rfl rfl rfl rfl rfl rfl ?_
    funext e
    cases e <;> rfl

theorem send_overflow (hc : p.closed = []) (h : p.send target line = .overflow p') :
    p'.settings = p.settings ∧ Scene.Stops (.send target line) p.scene p'.scene := by
  unfold send at h
  rw [if_neg (by simp [hc])] at h
  have hstopped := Outcome.map_eq_overflow.mp h
  cases target with
  | modemManager => cases hstopped
  | modem | model =>
    obtain ⟨⟨r, env⟩, hheard, rfl⟩ := Outcome.mapState_eq_overflow.mp hstopped
    obtain ⟨hr, ha, ht, hl⟩ := Responder.hear_overflow hheard
    refine ⟨by simp [settings, hr], ?_⟩
    simp only [scene, ha, ht, hr, Environment.record, Array.toList_push]
    exact .onLine (by simp) hl

theorem arm_done {delay : Duration} {x : ExchangeId} {timer : TimerHandle}
    (h : p.arm delay x = .done timer p') :
    p'.settings = p.settings ∧ Scene.Acts p.answer? (.arm delay x) p.scene p'.scene := by
  obtain ⟨env, harm, rfl⟩ := Outcome.mapState_eq_done.mp h
  obtain ⟨key, env₁, hs, hr⟩ := Outcome.andThen_eq_done.mp harm
  obtain ⟨due, hd, rfl, rfl⟩ := Environment.schedule_eq_done_iff.mp hs
  cases hr
  refine ⟨rfl, ?_⟩
  simp only [scene, Environment.record, Array.toList_push]
  exact .armed hd

theorem arm_overflow {delay : Duration} {x : ExchangeId} (h : p.arm delay x = .overflow p') :
    p'.settings = p.settings ∧ Scene.Stops (.arm delay x) p.scene p'.scene := by
  obtain ⟨env, harm, rfl⟩ := Outcome.mapState_eq_overflow.mp h
  rcases Outcome.andThen_eq_overflow.mp harm with hs | ⟨key, env₁, -, hr⟩
  · obtain ⟨agenda, ha, rfl⟩ := Outcome.mapState_eq_overflow.mp hs
    obtain ⟨rfl, hl⟩ := Agenda.schedule_eq_overflow ha
    exact ⟨rfl, .onTimer hl⟩
  · cases hr

theorem scene_disarm (p : Peers) (timer : TimerHandle) :
    (p.disarm timer).scene = p.scene.disarm timer := by
  simp only [disarm, Environment.disarm, scene, Environment.record, Array.toList_push]
  rfl

theorem scene_report (p : Peers) (f : Failure) :
    (p.report f).scene = p.scene.record (.failed f) := by
  simp only [report, scene, Environment.record, Array.toList_push]
  rfl

/-- An action other than a note, as it is carried out where nothing refuses lines. -/
theorem perform_done (hc : p.closed = []) (ha : a.isNote = false)
    (h : perform host a d p = .done () (d', p')) :
    p'.settings = p.settings ∧ Scene.Acts p.answer? a p.scene p'.scene := by
  cases performs_of_done h with
  | taken hsend => exact (send_done hc hsend).2
  | refused hsend => exact nomatch (send_done hc hsend).1
  | undeliverable => exact ⟨rfl, .undelivered⟩
  | armed hdone =>
    obtain ⟨timer, harm, -⟩ := Outcome.map_eq_done.mp hdone
    exact arm_done harm
  | @cancelled timer => exact ⟨rfl, scene_disarm p timer ▸ .cancelled⟩
  | @reported _ _ f => exact ⟨rfl, scene_report p f ▸ .reported⟩
  | noted => cases ha

theorem perform_overflow (hc : p.closed = []) (h : perform host a d p = .overflow (d', p')) :
    p'.settings = p.settings ∧ Scene.Stops a p.scene p'.scene := by
  cases a with
  | send target line =>
    have hsend : host.send target line p = p.send target line := rfl
    cases hs : p.send target line with
    | done reply p₁ => cases reply <;> simp [perform, hsend, hs] at h
    | overflow p₁ =>
      simp only [perform, hsend, hs] at h
      cases h
      exact send_overflow hc hs
  | arm delay x =>
    obtain ⟨p₁, h, heq⟩ := Outcome.mapState_eq_overflow.mp h
    cases heq
    exact arm_overflow (Outcome.map_eq_overflow.mp h)
  | undeliverable | cancel | report | note => cases h

/-- **The peers carry out the requests of a step in order.** -/
theorem performAll_done {actions : List Action} (hc : p.closed = [])
    (h : performAll host actions d p = .done () (d', p')) :
    p'.settings = p.settings ∧
      Scene.ActsAll p.answer? (requests actions) p.scene p'.scene := by
  induction actions generalizing d p with
  | nil =>
    cases h
    exact ⟨rfl, .nil⟩
  | cons a rest ih =>
    obtain ⟨d₁, p₁, ha, h⟩ := performAll_cons_done h
    cases hn : a.isNote with
    | true =>
      cases a with
      | note n =>
        cases ha
        exact ih (p := p.note (.relay n)) hc h
      | _ => cases hn
    | false =>
      obtain ⟨hset, hacts⟩ := perform_done hc hn ha
      obtain ⟨hset', hall⟩ := ih (closed_congr hset ▸ hc) h
      refine ⟨hset'.trans hset, ?_⟩
      rw [requests, List.filter_cons_of_pos (by simp [hn])]
      exact .cons hacts (answer?_congr hset ▸ hall)

/-- Where the peers stop, they have carried out the requests up to one that sets a time. -/
theorem performAll_overflow {actions : List Action} (hc : p.closed = [])
    (h : performAll host actions d p = .overflow (d', p')) :
    p'.settings = p.settings ∧
      ∃ before a after σ, requests actions = before ++ a :: after ∧
        Scene.ActsAll p.answer? before p.scene σ ∧ Scene.Stops a σ p'.scene := by
  induction actions generalizing d p with
  | nil => cases h
  | cons a rest ih =>
    rcases performAll_cons_overflow h with ha | ⟨d₁, p₁, ha, h⟩
    · obtain ⟨hset, hstop⟩ := perform_overflow hc ha
      refine ⟨hset, [], a, requests rest, p.scene, ?_, .nil, hstop⟩
      have hn : a.isNote = false := hstop.isNote_eq
      rw [requests, List.filter_cons_of_pos (by simp [hn])]
      rfl
    · cases hn : a.isNote with
      | true =>
        cases a with
        | note n =>
          cases ha
          exact ih (p := p.note (.relay n)) hc h
        | _ => cases hn
      | false =>
        obtain ⟨hset, hacts⟩ := perform_done hc hn ha
        obtain ⟨hset', before, b, after, σ, hreq, hall, hstop⟩ := ih (closed_congr hset ▸ hc) h
        refine ⟨hset'.trans hset, a :: before, b, after, σ, ?_, ?_, hstop⟩
        · rw [requests, List.filter_cons_of_pos (by simp [hn]), List.cons_append, ← hreq]
          rfl
        · exact .cons hacts (answer?_congr hset ▸ hall)

end Peers

end ModemRelay.Simulation
