import ModemRelay.Proofs.Scenario.Evaluation
import ModemRelay.Proofs.Scenario.Timeline

/-!
# What the client gets

As long as the pass-through mode is never entered, the client gets the model's answers to its
commands, in the order of the commands, whatever the modem does and however often the mode changes
(`delivered_eq_answers`). `Serves` says how far a session has got with that: each command that has
come has been put to the model, the model's answers come in the order in which it was asked, and
each of those that have come has been handed over or waits in the relay.
-/

namespace ModemRelay.Scenario
open Simulation Relay

/-- A session that serves the client from the model. -/
structure Serves (answer? : Endpoint → String → Option String) (commands : List String)
    (r : Relay) (σ : Scene) : Prop where
  world : World r σ
  mode : r.mode ≠ .passThrough
  modes : ∀ x ∈ σ.agenda.lane Input.mode?, x.2 ≠ .passThrough
  commands : (σ.stream .modemManager).map (·.2) = commands
  consulted : σ.Consulted answer? .model
  delivered : σ.sentTo .modemManager ++ r.pending.modelValues = (σ.arrivals .model).map (·.2)

namespace Serves

variable {answer? : Endpoint → String → Option String} {commands : List String} {r r' : Relay}
  {σ σ' : Scene} {d : Due}

theorem turn (h : Serves answer? commands r σ) (hc : ∀ line, answer? .modemManager line = none)
    (ht : Turn answer? r σ d r' σ') : Serves answer? commands r' σ' := by
  have hw := h.world.turn ht
  cases ht with
  | @intro agenda r₁ actions σ₁ hp hm hacts deliveries =>
    have hmodes := h.world.modes_acts hp hm hacts
    have hnext : d.event.mode? ≠ some .passThrough := fun hd =>
      Agenda.of_popNext (p := (· ≠ .passThrough)) hp h.modes _ hd rfl
    have hlines := hm.lines_model h.mode hnext
    have hdelivered := h.world.delivered_acts hp hm hacts h.mode hnext h.delivered
    refine ⟨hw, hm.mode_ne_passThrough h.mode hnext, ?_, ?_, ?_, ?_⟩
    · rw [Scene.agenda_handled]
      exact fun x hx => h.modes x (hmodes ▸ List.mem_append_right _ hx)
    · rw [Scene.stream_handled, h.world.stream_acts_of_silent hp hm hacts hc]
      exact h.commands
    · exact (h.consulted.acts h.world hp hm hacts hlines).handled
    · rw [Scene.sentTo_handled, Scene.arrivals_handled]
      exact hdelivered

/-- At the end all answers have been handed over. -/
theorem delivered_eq (h : Serves answer? commands r σ) (he : σ.agenda.size = 0) :
    σ.sentTo .modemManager = commands.filterMap (answer? .model) := by
  have htimers : r.pending.timers = [] := by
    rw [← h.world.timers, Scene.timers, Agenda.lane_of_size he]
    rfl
  have hdelivered := h.delivered
  rw [h.world.relay.modelValues_of_timers_nil htimers, List.append_nil] at hdelivered
  rw [hdelivered, h.consulted.answers_eq h.commands he]

end Serves

/-- Whether a step is one of a session that may only serve the client from the model: a command, an
unasked line of the modem, or a change to another mode than pass-through. -/
def Step.keepsModel : Step → Prop
  | command .. => True
  | inject _ source _ => source = .modem
  | setMode _ mode => mode ≠ .passThrough

instance (step : Step) : Decidable step.keepsModel := by
  cases step <;> unfold Step.keepsModel <;> infer_instance

theorem Start.serves {s : Scenario} {r : Relay} {σ : Scene} (h : s.Start r σ)
    (hm : s.mode ≠ .passThrough) (hs : ∀ step ∈ s.steps, step.keepsModel) :
    Serves s.answer? s.commands r σ := by
  have hmodel : σ.coming .model = [] := by
    refine h.coming_eq_nil fun step hstep line hevent => ?_
    have hkeeps := hs step hstep
    cases step <;> cases hevent
    cases hkeeps
  refine ⟨h.world, ?_, ?_, ?_, h.consulted hmodel, ?_⟩
  · rw [h.mode]
    split
    · simp
    · exact hm
  · intro x hx
    rw [h.agenda] at hx
    obtain ⟨step, hstep, hk⟩ := lane_postAll hx
    have hkeeps := hs step hstep
    cases step <;> cases hk
    exact hkeeps
  · refine h.stream_manager fun step hstep line hevent => ?_
    have hkeeps := hs step hstep
    cases step <;> cases hevent
    · exact ⟨_, rfl⟩
    · cases hkeeps
  · rw [h.sentTo, h.arrivals, h.modelValues]
    rfl

/-- **The client gets the model's answers to its commands, in the order of the commands**, in every
session that never enters the pass-through mode and comes to its end. The seed, the delays, the
response timeout, the modem and the changes between the other modes make no difference. -/
theorem delivered_eq_answers (s : Scenario) {n : Nat} {session : Session}
    (hm : s.mode ≠ .passThrough) (hs : ∀ step ∈ s.steps, step.keepsModel)
    (hplay : s.play = .done n session) (hend : session.agenda.size = 0) :
    session.delivered = s.commands.filterMap s.model.response? := by
  have h := play_done (fun h => h.world.relay) (fun h => h.turn fun _ => rfl)
    (fun h => h.serves hm hs) hplay
  exact h.delivered_eq hend

/-- A session whose mode changes while one exchange waits for the modem, with a modem that is too
late for another and speaks unasked. -/
def switching : Scenario where
  mode := .splitVerify
  relay := { responseTimeout := .ofMillis 2 }
  modem := some { latency := 9, jitter := 4, fallback := some "OK" }
  model :=
    { latency := 1
      responses := Std.ExtTreeMap.ofList [("ATI", "Telit"), ("AT+CSQ", "+CSQ: 17,0")] }
  steps := [.command 20 "ATI", .setMode 22 .wardModel, .inject 22 .modem "RING", .command 4 "ATZ",
    .command 4 "AT+CSQ", .setMode 30 .splitVerify, .command 4 "ATI"]

theorem delivered_eq_answers_switching :
    switching.mode ≠ .passThrough ∧ (∀ step ∈ switching.steps, step.keepsModel) ∧
      ∃ n session, switching.play = .done n session ∧ session.agenda.size = 0 ∧
        session.delivered = ["+CSQ: 17,0", "Telit", "Telit"] := by
  have hm : switching.mode ≠ .passThrough := by decide
  have hs : ∀ step ∈ switching.steps, step.keepsModel := by decide
  obtain ⟨n, hplay⟩ := switching.play_eq_done (by decide +kernel)
  have hend : switching.evaluate.state.agenda.size = 0 := by decide +kernel
  have hdelivered := delivered_eq_answers switching hm hs hplay hend
  exact ⟨hm, hs, n, _, hplay, hend, hdelivered.trans (by decide +kernel)⟩

end ModemRelay.Scenario
