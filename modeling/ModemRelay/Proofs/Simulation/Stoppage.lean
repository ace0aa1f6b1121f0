import ModemRelay.Proofs.Scenario.Evaluation
import ModemRelay.Proofs.Simulation.Uses

/-!
# Steps that stop half way

A step stops where a time would be too late, that of an answer or that of a timer. Only a command
from the client and an answer of the model that opens an exchange set a time, and little is done
before it (`Scene.CutShort`): what has come is written down, and the modem may have been handed the
command. So the relay is as it was, and of the queue no more is gone than the event
(`Session.Stopped`). This holds however a session has been used, also after steps that have stopped
(`Session.resilient_carryOn`).
-/

namespace ModemRelay

namespace Relay

variable {r r' : Relay} {handle : TimerHandle} {input : Input} {before after : List Action}
  {target : Endpoint} {line : String}

/-- A line for the modem or the model is a command. All that may have been asked for before it is
that the modem be handed the command as well. -/
theorem Move.of_offer (m : Move r handle input r' (before ++ .send target line :: after))
    (hne : target ≠ .modemManager) :
    input = .line .modemManager line ∧
      (before = [] ∨ r.mode = .splitVerify ∧ target = .model ∧ before = [.send .modem line]) := by
  generalize hsplit : before ++ .send target line :: after = actions at m
  have hmem : .send target line ∈ actions :=
    hsplit ▸ List.mem_append_right before List.mem_cons_self
  cases m with
  | toModel | toModem =>
    obtain ⟨rfl, hsend⟩ | ⟨-, hnil⟩ := List.append_eq_singleton_iff.mp hsplit
    · cases hsend
      exact ⟨rfl, .inl rfl⟩
    · cases hnil
  | toBoth hm =>
    rcases before with _ | ⟨first, before⟩
    · cases hsplit
      exact ⟨rfl, .inl rfl⟩
    · obtain ⟨rfl, hrest⟩ := List.cons_eq_cons.mp hsplit
      obtain ⟨rfl, hsend⟩ | ⟨-, hnil⟩ := List.append_eq_singleton_iff.mp hrest
      · cases hsend
        exact ⟨rfl, .inr ⟨hm, rfl, rfl⟩⟩
      · cases hnil
  | modeTaken =>
    rcases of_mem_drain hmem with ⟨_, h⟩ | ⟨_, h⟩ | ⟨_, h⟩ <;> cases h
    exact (hne rfl).elim
  | _ => simp [hne] at hmem

end Relay

namespace Simulation
open Relay

namespace Scene

/-- How a step can be cut short, from the scene in which the relay hears of the input on: the answer
to a command would come too late, be the command handed to one endpoint or to the modem and then to
the model, or the timer of an exchange would fire too late. -/
inductive CutShort (answer? : Endpoint → String → Option String) (r : Relay) (σ : Scene) :
    Input → Scene → Prop
  | first (hne : target ≠ .modemManager) :
    CutShort answer? r σ (.line .modemManager line) (σ.record (.sent target line))
  | second (hm : r.mode = .splitVerify) (h : Acts answer? (.send .modem line) σ σ₁) :
    CutShort answer? r σ (.line .modemManager line) (σ₁.record (.sent .model line))
  | timer (hm : r.mode = .splitVerify) (hp : ∀ e ∈ r.pending.toList, e.ModelFirst) :
    CutShort answer? r σ (.line .model line) { σ with agenda := σ.agenda.takeKey }

variable {answer? : Endpoint → String → Option String} {r : Relay} {σ σ' : Scene} {input : Input}

namespace CutShort

theorem cause (h : CutShort answer? r σ input σ') :
    (∃ line, input = .line .modemManager line) ∨
      r.mode = .splitVerify ∧ (∃ line, input = .line .model line) ∧
        ∀ e ∈ r.pending.toList, e.awaitsModel = false := by
  cases h with
  | first | second => exact .inl ⟨_, rfl⟩
  | timer hm hp =>
    refine .inr ⟨hm, ⟨_, rfl⟩, fun e he => ?_⟩
    obtain ⟨x, model, timer, rfl⟩ := hp e he
    rfl

theorem timer?_eq (h : CutShort answer? r σ input σ') : input.timer? = none := by
  cases h <;> rfl

theorem keyed (h : CutShort answer? r σ input σ') (hs : σ.agenda.Keyed) : σ'.agenda.Keyed := by
  cases h with
  | first => exact hs
  | second _ hact => exact hact.keyed hs
  | timer => exact hs.takeKey

theorem timers_eq (h : CutShort answer? r σ input σ') (hs : σ.agenda.Keyed) :
    σ'.timers = σ.timers := by
  cases h with
  | first | timer => rfl
  | second _ hact =>
    cases hact with
    | silent => rfl
    | asked => exact hs.lane_post_none rfl

theorem failures_eq (h : CutShort answer? r σ input σ') : σ'.failures = σ.failures := by
  cases h with
  | first => exact failures_record.trans (List.append_nil _)
  | second _ hact =>
    rw [failures_record, hact.failures_eq]
    simp [Trace.failure?, Action.failure?]
  | timer => rfl

theorem delivered_eq (h : CutShort answer? r σ input σ') :
    σ'.sentTo .modemManager = σ.sentTo .modemManager := by
  cases h with
  | first hne =>
    rw [sentTo_record]
    simp [Trace.sent?, hne]
  | second _ hact =>
    rw [sentTo_record, hact.sentTo_eq]
    simp [Trace.sent?]
  | timer => rfl

/-- Nothing is queued but what the modem answers to a command that the model has been handed too. -/
theorem queue_eq (h : CutShort answer? r σ input σ') :
    σ'.agenda.queue = σ.agenda.queue ∨
      ∃ line answer due, r.mode = .splitVerify ∧ input = .line .modemManager line ∧
        answer? .modem line = some answer ∧ σ'.sentTo .model = σ.sentTo .model ++ [line] ∧
        σ'.agenda.queue =
          σ.agenda.queue.insert ⟨due, σ.agenda.nextKey⟩ (.line .modem answer) := by
  cases h with
  | first | timer => exact .inl rfl
  | @second line σ₁ hm hact =>
    have hsent := hact.sentTo_eq (e := .model)
    cases hact with
    | silent => exact .inl rfl
    | @asked _ _ answer due _ ha =>
      refine .inr ⟨line, answer, due, hm, rfl, ha, ?_, rfl⟩
      rw [sentTo_record, hsent]
      simp [Trace.sent?]

end CutShort

end Scene

namespace Halt

variable {answer? : Endpoint → String → Option String} {r r' : Relay} {σ σ' : Scene} {d : Due}

/-- **A step that stops is cut short**, and the relay stays as it was but for the lines counted so
far and for the number of an exchange. -/
theorem cutShort (h : Halt answer? r σ d r' σ') : ∃ agenda next deliveries,
    σ.agenda.popNext = some (d, agenda) ∧ r' = r.halted next deliveries ∧
      Scene.CutShort answer? r (Scene.heard { σ with agenda } d) d.event σ' := by
  cases h with
  | @onLine agenda next before after target σ₁ line hp hm hne hacts deliveries =>
    refine ⟨agenda, next, deliveries, hp, rfl, ?_⟩
    obtain ⟨hd, rfl | ⟨hmode, rfl, rfl⟩⟩ := hm.of_offer hne
    · rw [hacts.eq_of_nil, hd]
      exact .first hne
    · -- the modem has been handed the command, and its answer, if it has one, is queued
      cases hacts with
      | cons hact hrest =>
        rw [hrest.eq_of_nil, hd]
        exact .second hmode hact
  | @onTimer agenda next before after σ₁ delay x hp hm hacts deliveries =>
    refine ⟨agenda, next, deliveries, hp, rfl, ?_⟩
    obtain ⟨line, hd, hactions, -, hfirst, hmode⟩ := hm.of_arm
      (List.mem_append_right before List.mem_cons_self)
    obtain ⟨rfl, -⟩ | ⟨-, hnil⟩ := List.append_eq_singleton_iff.mp hactions
    · rw [hacts.eq_of_nil, hd]
      exact .timer hmode hfirst
    · cases hnil

theorem sound (h : Halt answer? r σ d r' σ') (hs : r.Sound) : r'.Sound := by
  cases h with
  | onLine _ hm _ _ deliveries | onTimer _ hm _ deliveries => exact hs.halted hm deliveries

theorem keyed (h : Halt answer? r σ d r' σ') (hs : σ.agenda.Keyed) : σ'.agenda.Keyed := by
  obtain ⟨agenda, next, deliveries, hp, -, hcut⟩ := h.cutShort
  exact hcut.keyed (by rw [Scene.agenda_heard]; exact hs.popNext hp)

end Halt

namespace Session

/-- What is left of a session where a step has stopped, half way through the event `d`. -/
structure Stopped (s : Session) (d : Due) (s' : Session) : Prop where
  /-- Only a command from the client stops a step, or an answer of the model that is to be verified
  while no exchange waits for one. -/
  cause : (∃ line, d.event = .line .modemManager line) ∨
    s.relay.mode = .splitVerify ∧ (∃ line, d.event = .line .model line) ∧
      ∀ e ∈ s.relay.pending.toList, e.awaitsModel = false
  mode : s'.relay.mode = s.relay.mode
  pending : s'.relay.pending.toList = s.relay.pending.toList
  owed : s'.relay.owedModemLines = s.relay.owedModemLines
  timers : s'.agenda.lane Input.timer? = s.agenda.lane Input.timer?
  failures : s'.failures.toList = s.failures.toList
  delivered : s'.delivered = s.delivered
  /-- The event is taken off the queue. Nothing comes in its stead but what the modem answers to a
  command that the model has been handed as well. -/
  queue : s'.agenda.queue = s.agenda.queue.erase ⟨d.time, d.key⟩ ∨
    ∃ line answer due, s.relay.mode = .splitVerify ∧ d.event = .line .modemManager line ∧
      s.peers.answer? .modem line = some answer ∧
      s'.sentTo .model = s.sentTo .model ++ [line] ∧
      s'.agenda.queue = (s.agenda.queue.erase ⟨d.time, d.key⟩).insert ⟨due, s.agenda.nextKey⟩
        (.line .modem answer)

/-- What can be relied on where times may be too late. -/
structure Resilient (s : Session) : Prop where
  /-- A step that stops leaves all but its event as it was. -/
  stopped : ∀ s', s.step = .overflow s' →
    ∃ d agenda, s.agenda.popNext = some (d, agenda) ∧ s.Stopped d s'
  /-- To ask for a mode never stops. -/
  setMode : ∀ mode, ∃ effective s', s.setMode mode = .done effective s'
  /-- Nor does a timer that fires. -/
  timer : ∀ x, ∃ s', s.feed (.timer x) = .done () s'

variable {s s₁ s' : Session} {d : Due} {input : Input} {delay : Duration} {event : Input}
  {mode : Mode} {operation : Operation} {use : Use}

theorem Steady.stopped (h : s.Steady) (hs : s.step = .overflow s') :
    ∃ d agenda, s.agenda.popNext = some (d, agenda) ∧ s.Stopped d s' := by
  obtain ⟨-, d, hhalt⟩ := step_overflow h.closed h.relay hs
  obtain ⟨agenda, next, deliveries, hp, hr, hcut⟩ := hhalt.cutShort
  have hpopped : s.agenda.popNext = some (d, agenda) := hp
  have hkeyed : (Scene.heard { s.scene with agenda } d).agenda.Keyed := by
    rw [Scene.agenda_heard]
    exact h.agenda.popNext hp
  refine ⟨d, agenda, hpopped, {
    cause := hcut.cause
    mode := hr ▸ rfl
    pending := hr ▸ rfl
    owed := hr ▸ rfl
    timers := ?_
    failures := ?_
    delivered := ?_
    queue := ?_ }⟩
  · -- the event is no timer, and so it was not in their lane
    have hlane := Agenda.lane_popNext hpopped Input.timer?
    rw [hcut.timer?_eq, Option.map_none, Option.toList_none, List.nil_append] at hlane
    refine (hcut.timers_eq hkeyed).trans ?_
    rw [Scene.timers, Scene.agenda_heard]
    exact hlane.symm
  · rw [toList_failures, toList_failures, hcut.failures_eq, Scene.failures_heard]
    rfl
  · exact hcut.delivered_eq.trans Scene.sentTo_heard
  · have hqueue := hcut.queue_eq
    rw [Scene.agenda_heard, Scene.sentTo_heard, Agenda.popNext_snd hp] at hqueue
    exact hqueue

/-- What is fed to the relay and is neither a command nor an answer of the model is dealt with. -/
theorem Steady.feed_isDone (h : s.Steady) (hi : ∀ source line, input ≠ .line source line) :
    ∃ s', s.feed input = .done () s' := by
  cases hf : s.feed input with
  | done _ s₁ => exact ⟨s₁, rfl⟩
  | overflow s₁ =>
    obtain ⟨-, r', before, a, after, σ, deliveries, hm, -, -, hstop⟩ :=
      feed_overflow h.closed h.relay hf
    generalize s₁.scene = σ' at hstop
    cases hstop with
    | onLine hne => exact (hi _ _ (hm.of_offer hne).1).elim
    | onTimer =>
      obtain ⟨line, hline, -⟩ := hm.of_arm (List.mem_append_right before List.mem_cons_self)
      exact (hi _ _ hline).elim

theorem Steady.resilient (h : s.Steady) : s.Resilient where
  stopped s' hs := h.stopped hs
  setMode mode := by
    have hline : ∀ source line, Input.setMode mode ≠ .line source line := nofun
    obtain ⟨s₁, hf⟩ := h.feed_isDone hline
    rw [Session.setMode, hf]
    exact ⟨_, _, rfl⟩
  timer x := h.feed_isDone nofun

/-! ## Going on after steps that have stopped -/

/-- Performs uses in order, and goes on after those that have stopped. -/
def carryOn : List Use → Session → Session
  | [], s => s
  | use :: rest, s => carryOn rest (use.perform s).state

theorem Steady.step_overflow (h : s.Steady) (hs : s.step = .overflow s') : s'.Steady := by
  obtain ⟨hset, d, hhalt⟩ := Session.step_overflow h.closed h.relay hs
  exact ⟨Peers.closed_congr hset ▸ h.closed, hhalt.sound h.relay, hhalt.keyed h.agenda⟩

theorem Steady.schedule_overflow (h : s.Steady) (hs : s.schedule delay event = .overflow s') :
    s'.Steady := by
  obtain ⟨env, henv, rfl⟩ := Outcome.mapState_eq_overflow.mp hs
  obtain ⟨agenda, hagenda, rfl⟩ := Outcome.mapState_eq_overflow.mp (Outcome.map_eq_overflow.mp henv)
  obtain ⟨rfl, -⟩ := Agenda.schedule_eq_overflow hagenda
  exact ⟨h.closed, h.relay, h.agenda.takeKey⟩

theorem Operation.perform_overflow (h : s.Steady) (hop : operation.perform s = .overflow s') :
    s'.Steady := by
  have hdoes := h.does operation
  generalize operation.perform s = o at hdoes hop
  cases hdoes with
  | @asks mode =>
    obtain ⟨effective, s₁, hdone⟩ := h.resilient.setMode mode
    rw [hdone] at hop
    cases hop
  | schedules => exact h.schedule_overflow hop
  | handles => cases hop
  | halts hn ho =>
    cases hop
    exact (hn.steady h).step_overflow ho

theorem Use.perform_overflow (h : s.Steady) (hu : use.perform s = .overflow s') : s'.Steady := by
  cases use with
  | session operation => exact operation.perform_overflow h hu
  | agenda operation =>
    obtain ⟨agenda, hmap, rfl⟩ := Outcome.mapState_eq_overflow.mp hu
    obtain ⟨-, -, -, -, rfl⟩ := Agenda.perform_overflow (Outcome.map_eq_overflow.mp hmap)
    exact ⟨h.closed, h.relay, h.agenda.takeKey⟩
  | record | draw => cases hu

/-- **Whatever is done to a session, and whatever stops,** it stays steady. -/
theorem Steady.carryOn (h : s.Steady) (uses : List Use) : (carryOn uses s).Steady := by
  induction uses generalizing s with
  | nil => exact h
  | cons use rest ih =>
    rw [Session.carryOn]
    cases hu : use.perform s with
    | done _ s₁ => exact ih (use.perform_steady h hu).1
    | overflow s₁ => exact ih (use.perform_overflow h hu)

/-- **A step that stops takes nothing with it but its event**, in every session: however long the
response timeout and the delays are, and whatever has been done to the session and its environment
before, be it that some of it has stopped as well. Only a command or an answer of the model can stop
a step; asking for a mode never stops, and neither does a timer that fires. -/
theorem resilient_carryOn (config : Config) (uses : List Use) :
    (carryOn uses (.new config)).Resilient :=
  ((Steady.new config).carryOn uses).resilient

/-- A session whose modem answers at once, while the model takes a millisecond. -/
def lagging : Config where
  modem := some { responses := Std.ExtTreeMap.ofList [("ATI", "Telit")] }
  model := { latency := 1, fallback := some "OK" }

/-- A command at the last moment there is. -/
def lastCall : List Use :=
  [.session (.setMode .splitVerify),
    .session (.runUntil ⟨18_446_744_073_709_551_615_999_999_999, by decide⟩),
    .session (.command .zero "ATI")]

theorem resilient_carryOn_lastCall :
    ∃ s', (carryOn lastCall (.new lagging)).step = .overflow s' ∧
      s'.agenda.queue.toList.map (·.2) = [.line .modem "Telit"] ∧
      (∃ d agenda, (carryOn lastCall (.new lagging)).agenda.popNext = some (d, agenda) ∧
        (carryOn lastCall (.new lagging)).Stopped d s') ∧
      (carryOn lastCall (.new lagging)).Resilient := by
  have hstep : (carryOn lastCall (.new lagging)).step =
      .overflow (carryOn lastCall (.new lagging)).stepFirst.state := by
    rw [← stepFirst_eq]
    exact Outcome.eq_overflow (by decide +kernel)
  have h := resilient_carryOn lagging lastCall
  exact ⟨_, hstep, by decide +kernel, h.stopped _ hstep, h⟩

end Session

end Simulation

end ModemRelay
