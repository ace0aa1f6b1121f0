import ModemRelay.Proofs.Simulation.Chronicle
import ModemRelay.Proofs.Simulation.Scene

/-!
# How long a responder takes

A responder is asked for answers while others use the environment that it shares: they move the
clock, draw from the random stream and fill the agenda (`Responder.attend`). It gives one answer at
a time, so that an answer may have to wait for those before it. The wait adds nothing to what
latency and jitter allow: the time that is promised already is no more than both of them ahead of
the clock, and the clock does not go back (`Responder.Ready`). So an answer takes the latency at
least and the jitter more at most, however many others are still to come
(`Responder.halfDuplex_attend`).
-/

namespace ModemRelay.Simulation
open Relay

namespace Environment

/-- Something that is done to an environment. -/
inductive Operation where
  | agenda (operation : Agenda.Operation)
  | jitter (max : Duration)
  | record (trace : Trace)

/-- The environment after an operation, also after one that would set a time out of range. -/
def Operation.perform : Operation → Environment → Environment
  | agenda operation, env => { env with agenda := (operation.perform env.agenda).state }
  | jitter max, env => (env.jitter max).2
  | record trace, env => env.record trace

/-- The clock never goes back. -/
theorem Operation.now_le (operation : Operation) (env : Environment) :
    env.now ≤ (operation.perform env).now := by
  cases operation with
  | agenda operation =>
    change env.agenda.now ≤ (operation.perform env.agenda).state.now
    cases hop : operation.perform env.agenda with
    | done result after => exact (Agenda.made_of_perform hop).now_le
    | overflow after =>
      obtain ⟨-, -, -, -, rfl⟩ := Agenda.perform_overflow hop
      exact Nat.le_refl _
  | jitter max =>
    obtain ⟨delay, random, hj, -⟩ := env.jitter_eq max
    rw [perform, hj]
    exact Nat.le_refl _
  | record trace => exact Nat.le_refl _

end Environment

namespace Responder

/-- Something that happens around a responder. -/
inductive Happening where
  | asks (command : String)
  /-- Others use the environment. -/
  | meanwhile (operation : Environment.Operation)

/-- A call of a responder: the responder and the environment before it, the command, and what comes
of it. -/
structure Call where
  before : Responder × Environment
  command : String
  outcome : Outcome (Responder × Environment) (Option (Duration × String))

/-- The responder and the environment after the call. -/
def Call.after (c : Call) : Responder × Environment := c.outcome.state

/-- The answer with its delay, if the call comes to one. -/
def Call.reply (c : Call) : Option (Duration × String) := c.outcome.result?.join

/-- The calls of a responder among all that happens around it. -/
def attend : List Happening → Responder → Environment → List Call
  | [], _, _ => []
  | .meanwhile operation :: rest, r, env => attend rest r (operation.perform env)
  | .asks command :: rest, r, env =>
    let outcome := r.answer command env
    ⟨(r, env), command, outcome⟩ :: attend rest outcome.state.1 outcome.state.2

/-- When the answer is due, if there is one. -/
def Call.due? (c : Call) : Option Duration :=
  c.reply.bind fun (delay, _) => c.before.2.now.add? delay

/-- What can be relied on of a single call. -/
structure Call.Prompt (config : Config) (c : Call) : Prop where
  /-- Each command gets the answer that it has, if it has one. -/
  reply : ∀ reply state, c.outcome = .done reply state →
    reply.map (·.2) = config.response? c.command
  /-- A call stops only where the command has an answer, and the clock, the latency and the jitter
  come to a time out of range. The responder is then as it was. -/
  stopped : ∀ state, c.outcome = .overflow state → (config.response? c.command).isSome ∧
    state.1 = c.before.1 ∧
    ∃ sum, (Duration.ofMillis config.latency).add? (.ofMillis config.jitter) = some sum ∧
      c.before.2.now.add? sum = none
  /-- In nanoseconds, of which a millisecond has a million. -/
  bounded : ∀ delay response, c.reply = some (delay, response) →
    1_000_000 * config.latency.toNat ≤ delay.nanos ∧
      delay.nanos ≤ 1_000_000 * (config.latency.toNat + config.jitter.toNat)
  /-- The time of an answer is never behind the clock, and its delay leads there exactly. -/
  due : ∀ delay response, c.reply = some (delay, response) →
    c.before.2.now ≤ c.after.1.busyUntil ∧ c.due? = some c.after.1.busyUntil
  /-- A command without an answer leaves all as it was, the random stream included. -/
  silent : config.response? c.command = none → c.outcome = .done none c.before

/-- What can be relied on of the calls of a responder. -/
structure HalfDuplex (config : Config) (calls : List Call) : Prop where
  prompt : ∀ c ∈ calls, c.Prompt config
  /-- No answer overtakes an earlier one. -/
  ordered : (calls.filterMap Call.due?).Pairwise (· ≤ ·)

variable {r r' : Responder} {env env' : Environment} {command : String}
  {reply : Option (Duration × String)} {config : Config} {calls : List Call} {c : Call}

/-- What a responder has promised is at most its latency and its jitter ahead of the clock. -/
def Ready (r : Responder) (env : Environment) : Prop :=
  r.busyUntil.nanos ≤ env.now.nanos + 1_000_000 * (r.config.latency.toNat + r.config.jitter.toNat)

theorem Ready.later (h : r.Ready env) (hn : env.now ≤ env'.now) : r.Ready env' :=
  Nat.le_trans h (Nat.add_le_add_right hn _)

/-- **An answer comes in time**, and what is promised with it is still no further ahead. -/
theorem Ready.prompt_of_done (h : r.Ready env)
    (ha : r.answer command env = .done reply (r', env')) :
    r'.config = r.config ∧ r'.Ready env' ∧ r.busyUntil ≤ r'.busyUntil ∧
      Call.Prompt r.config ⟨(r, env), command, .done reply (r', env')⟩ := by
  rcases answer_cases ha with ⟨hr, rfl, rfl, rfl⟩ |
    ⟨response, delay, ready, random, hr, hlatency, hdelay, hready, rfl, rfl, rfl⟩
  · refine ⟨rfl, h, Nat.le_refl _, ?_, nofun, nofun, nofun, fun _ => rfl⟩
    rintro _ _ ⟨⟩
    exact hr.symm
  · have hdue : (max ready r.busyUntil).nanos = max ready.nanos r.busyUntil.nanos :=
      Duration.nanos_max ..
    rw [Duration.add?_eq_some_iff] at hready
    rw [Duration.le_def, Duration.nanos_ofMillis] at hlatency
    rw [Duration.nanos_ofMillis, Duration.nanos_ofMillis] at hdelay
    unfold Ready at h
    have hnow : env.now ≤ max ready r.busyUntil := by
      rw [Duration.le_def]
      omega
    refine ⟨rfl, ?_, Duration.le_max_right .., ?_, nofun, ?_, ?_, ?_⟩
    · change (max ready r.busyUntil).nanos ≤
        env.now.nanos + 1_000_000 * (r.config.latency.toNat + r.config.jitter.toNat)
      omega
    · rintro _ _ ⟨⟩
      exact hr.symm
    · rintro _ _ ⟨⟩
      rw [Duration.nanos_sub]
      dsimp only
      omega
    · rintro _ _ ⟨⟩
      refine ⟨hnow, Duration.add?_eq_some_iff.mpr ?_⟩
      exact (Nat.add_sub_cancel' hnow).symm
    · intro hnone
      rw [hr] at hnone
      cases hnone

/-- A call that stops leaves the responder as it was. -/
theorem Ready.prompt_of_overflow (h : r.Ready env)
    (ha : r.answer command env = .overflow (r', env')) :
    r' = r ∧ r'.Ready env' ∧
      Call.Prompt r.config ⟨(r, env), command, .overflow (r', env')⟩ := by
  obtain ⟨response, random, sum, hr, rfl, rfl, hsum, -, hlate⟩ := late_of_answer ha
  refine ⟨rfl, h, nofun, ?_, nofun, nofun, fun hnone => ?_⟩
  · rintro _ ⟨⟩
    exact ⟨hr ▸ rfl, rfl, sum, hsum, hlate⟩
  · rw [hr] at hnone
    cases hnone

/-- **Each call is prompt**, and what is promised after it is still no further ahead. -/
theorem Ready.call (h : r.Ready env) (command : String) :
    (r.answer command env).state.1.config = r.config ∧
      (r.answer command env).state.1.Ready (r.answer command env).state.2 ∧
      r.busyUntil ≤ (r.answer command env).state.1.busyUntil ∧
      Call.Prompt r.config ⟨(r, env), command, r.answer command env⟩ := by
  cases ha : r.answer command env with
  | done reply state => exact h.prompt_of_done ha
  | overflow state =>
    obtain ⟨r', env'⟩ := state
    obtain ⟨rfl, hready, hprompt⟩ := h.prompt_of_overflow ha
    exact ⟨rfl, hready, Nat.le_refl _, hprompt⟩

/-- An answer is due when the responder has promised it. -/
theorem Call.Prompt.eq_busyUntil (hc : c.Prompt config) {due : Duration}
    (hd : c.due? = some due) : due = c.after.1.busyUntil := by
  obtain ⟨⟨delay, response⟩, hreply, -⟩ := Option.bind_eq_some_iff.mp hd
  exact Option.some.inj (hd.symm.trans (hc.due delay response hreply).2)

theorem HalfDuplex.cons (h : HalfDuplex config calls) (hc : c.Prompt config)
    (hdue : ∀ due ∈ calls.filterMap Call.due?, c.after.1.busyUntil ≤ due) :
    HalfDuplex config (c :: calls) where
  prompt := List.forall_mem_cons.mpr ⟨hc, h.prompt⟩
  ordered := by
    cases hd : c.due? with
    | none =>
      rw [List.filterMap_cons_none hd]
      exact h.ordered
    | some due =>
      rw [List.filterMap_cons_some hd, List.pairwise_cons, hc.eq_busyUntil hd]
      exact ⟨hdue, h.ordered⟩

/-- The answers from now on come in time and behind those that have been promised. -/
private theorem halfDuplex_of_ready (happenings : List Happening) (h : r.Ready env) :
    HalfDuplex r.config (attend happenings r env) ∧
      ∀ due ∈ (attend happenings r env).filterMap Call.due?, r.busyUntil ≤ due := by
  induction happenings generalizing r env with
  | nil => exact ⟨⟨nofun, .nil⟩, nofun⟩
  | cons happening rest ih =>
    cases happening with
    | meanwhile operation => exact ih (h.later (operation.now_le env))
    | asks command =>
      obtain ⟨hconfig, hready, hbusy, hprompt⟩ := h.call command
      obtain ⟨hrest, hlater⟩ := ih hready
      refine ⟨(hconfig ▸ hrest).cons hprompt hlater, fun due hd => ?_⟩
      obtain ⟨c, hc, hdue⟩ := List.mem_filterMap.mp hd
      rcases List.mem_cons.mp hc with rfl | hc
      · rw [hprompt.eq_busyUntil hdue]
        exact hbusy
      · exact Nat.le_trans hbusy (hlater due (List.mem_filterMap.mpr ⟨c, hc, hdue⟩))

/-- **Each answer takes its latency, and the jitter more at most**, however many answers are still
to come, whatever others do with the clock and the random stream in between, and no answer overtakes
an earlier one. No call stops unless clock, latency and jitter are together out of range. -/
theorem halfDuplex_attend (config : Config) (env : Environment) (happenings : List Happening) :
    HalfDuplex config (attend happenings { config } env) :=
  (halfDuplex_of_ready (r := { config }) happenings (Nat.zero_le _)).1

/-- The third answer waits for the second, and a command without an answer for none. The last comes
when no time is left. -/
def overlapping : List Call :=
  attend [.asks "AT", .meanwhile (.agenda (.advanceTo (.ofMillis 5))), .asks "AT",
      .meanwhile (.jitter (.ofMillis 3)), .asks "AT+CSQ", .asks "AT",
      .meanwhile (.agenda (.advanceTo ⟨18_446_744_073_709_551_615_990_000_000, by decide⟩)),
      .asks "AT"]
    { config := { latency := 10, jitter := 50, responses := .ofList [("AT", "OK")] } } (.ofSeed 9)

theorem halfDuplex_attend_overlapping :
    overlapping.map (fun c => (c.reply.map (·.1.millis), c.due?.map (·.millis))) =
        [(some 27, some 27), (some 39, some 44), (none, none), (some 39, some 44), (none, none)] ∧
      overlapping.map (·.outcome.result?.isSome) = [true, true, true, true, false] ∧
      HalfDuplex { latency := 10, jitter := 50, responses := .ofList [("AT", "OK")] } overlapping :=
  ⟨by decide +kernel, by decide +kernel, halfDuplex_attend _ _ _⟩

end Responder

end ModemRelay.Simulation
