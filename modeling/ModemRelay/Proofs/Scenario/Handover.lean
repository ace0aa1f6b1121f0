import ModemRelay.Proofs.Relay.Handover
import ModemRelay.Proofs.Scenario.Verification
import ModemRelay.Proofs.Simulation.Handover

/-!
# Handing the client over to the modem

A session compares the answers of both sides until it enters the pass-through mode (`Comparing`);
from then on the client is answered by the modem (`HandedOver`). The client gets the model's answers
as far as they had come by then, and of the modem's those to the other commands
(`delivered_handover`). An exchange whose timer has fired is forgotten, though, and the modem's
answer to it is not dropped: for each such exchange the client gets a line too many
(`length_delivered_handover`).
-/

namespace ModemRelay.Scenario
open Simulation Relay

variable {answer? : Endpoint → String → Option String} {commands : List String} {r r' : Relay}
  {σ σ' : Scene} {d : Due}

/-- A session in which the modem is put each command, and in which no mode is going to be asked for
but pass-through. -/
structure Attended (answer? : Endpoint → String → Option String) (commands : List String)
    (r : Relay) (σ : Scene) : Prop where
  world : World r σ
  modes : ∀ x ∈ σ.agenda.lane Input.mode?, x.2 = .passThrough
  commands : (σ.stream .modemManager).map (·.2) = commands
  modem : σ.Consulted answer? .modem

namespace Attended

variable {agenda : Agenda} {actions : List Action}

theorem mode?_eq (h : Attended answer? commands r σ)
    (hp : σ.agenda.popNext = some (d, agenda)) :
    ∀ mode ∈ d.event.mode?, mode = .passThrough :=
  Agenda.of_popNext (p := (· = Mode.passThrough)) hp h.modes

theorem acts (h : Attended answer? commands r σ) (hc : ∀ line, answer? .modemManager line = none)
    (hp : σ.agenda.popNext = some (d, agenda)) (hm : Move r ⟨agenda.nextKey⟩ d.event r' actions)
    (hacts : Scene.ActsAll answer? actions (Scene.heard { σ with agenda } d) σ')
    (hl : actions.filterMap (·.line? .modem) = (d.event.line? .modemManager).toList)
    (deliveries : Deliveries) :
    Attended answer? commands { r' with deliveries } (σ'.handled d.event r'.mode) where
  world := h.world.turn (.intro hp hm hacts deliveries)
  modes x hx := by
    rw [Scene.agenda_handled] at hx
    exact h.modes x (h.world.modes_acts hp hm hacts ▸ List.mem_append_right _ hx)
  commands := by
    rw [Scene.stream_handled, h.world.stream_acts_of_silent hp hm hacts hc]
    exact h.commands
  modem := (h.modem.acts h.world hp hm hacts hl).handled

end Attended

/-- A session that compares the answers of both sides, and is going to hand the client over to the
modem. -/
structure Comparing (answer? : Endpoint → String → Option String) (commands : List String)
    (r : Relay) (σ : Scene) : Prop where
  attended : Attended answer? commands r σ
  mode : r.mode = .splitVerify
  planned : σ.agenda.lane Input.mode? ≠ []
  model : σ.Consulted answer? .model
  delivered : σ.sentTo .modemManager ++ r.pending.modelValues = (σ.arrivals .model).map (·.2)
  /-- The client has got an answer for each one of the modem that does not wait, and for each timer
  that has fired. -/
  used : ∃ used, (σ.arrivals .modem).map (·.2) = used ++ r.pending.modemValues ∧
    used.length + σ.fired.length = (σ.sentTo .modemManager).length
  before : ¬σ.Entered

/-- A session that has handed the client over to the modem. -/
structure HandedOver (answer? : Endpoint → String → Option String) (commands : List String)
    (r : Relay) (σ : Scene) : Prop where
  attended : Attended answer? commands r σ
  mode : r.mode = .passThrough
  entered : σ.Entered
  model : (σ.beforeHandover.arrivals .model).map (·.2) <+: commands.filterMap (answer? .model)
  fired : σ.beforeHandover.fired.length ≤ (σ.beforeHandover.arrivals .model).length
  delivered : σ.sentTo .modemManager =
    (σ.beforeHandover.arrivals .model).map (·.2) ++
      ((σ.arrivals .modem).map (·.2)).drop σ.withheld
  /-- The modem owes what is still to be withheld. -/
  owed : r.owedModemLines = σ.withheld - (σ.arrivals .modem).length

namespace Comparing

/-- The session goes on comparing until the mode is to change. -/
theorem stay (h : Comparing answer? commands r σ)
    (hc : ∀ line, answer? .modemManager line = none) (ht : Turn answer? r σ d r' σ')
    (hn : d.event.mode? = none) : Comparing answer? commands r' σ' := by
  have hw := h.attended.world
  cases ht with
  | @intro agenda r₁ actions σ₁ hp hm hacts deliveries =>
    have hmode : r.mode ≠ .passThrough := by simp [h.mode]
    have hnext : d.event.mode? ≠ some .passThrough := by simp [hn]
    have hmodes := hw.modes_acts hp hm hacts
    have hdelivered := hw.delivered_acts hp hm hacts hmode hnext h.delivered
    have hsame : σ₁.handled d.event r₁.mode = σ₁ := by
      unfold Scene.handled
      cases hd : d.event with
      | setMode mode => simp [hd, Input.mode?] at hn
      | line | timer => rfl
    refine ⟨h.attended.acts hc hp hm hacts (hm.lines_modem h.mode hn) deliveries,
      (hm.mode_eq hn).trans h.mode, ?_, ?_, ?_, ?_, ?_⟩ <;> rw [hsame]
    · rw [hn, Option.map_none, Option.toList_none, List.nil_append] at hmodes
      exact hmodes ▸ h.planned
    · exact h.model.acts hw hp hm hacts (hm.lines_model hmode hnext)
    · exact hdelivered
    · obtain ⟨used, hused, hlen⟩ := h.used
      obtain ⟨more, hmore, hlen'⟩ := hm.used_modem hw.relay h.mode hn (hw.timers_pop hp)
      refine ⟨used ++ more, ?_, ?_⟩
      · rw [hacts.lines_turn hw.agenda hp, hused, List.append_assoc, hmore, List.append_assoc]
      · rw [hacts.fired_turn, hacts.sentTo_turn]
        simp only [List.length_append]
        omega
    · exact hacts.not_entered h.before

/-- **The session hands the client over** when the mode changes, with all answers that wait. -/
theorem handover (h : Comparing answer? commands r σ)
    (hc : ∀ line, answer? .modemManager line = none) (ht : Turn answer? r σ d r' σ')
    (hd : d.event = .setMode .passThrough) : HandedOver answer? commands r' σ' := by
  have hw := h.attended.world
  cases ht with
  | @intro agenda r₁ actions σ₁ hp hm hacts deliveries =>
    obtain ⟨hmode, howed, hlines⟩ := hm.lines_handover hw.relay h.mode hd
    have hattended := h.attended.acts hc hp hm hacts (by rw [hlines, hd]; rfl) deliveries
    obtain ⟨hbefore, hfired⟩ := hacts.beforeHandover_eq hw.agenda hp h.before hd
    have harrivals : σ₁.arrivals .modem = σ.arrivals .modem := by
      rw [hacts.arrivals_turn hw.agenda hp, hd]
      exact List.append_nil _
    rw [hmode] at hattended ⊢
    -- the answers to withhold are those used so far and those of the exchanges that are cut off
    obtain ⟨used, hused, hlen⟩ := h.used
    have hcount := congrArg List.length h.delivered
    rw [List.length_append, List.length_map] at hcount
    have hwithheld : (σ₁.handled d.event .passThrough).withheld =
        used.length + r.pending.modelValues.length := by
      rw [Scene.withheld, hbefore, hfired]
      omega
    have hone : r.pending.modelValues = [] ∨ r.pending.modemValues = [] :=
      or_iff_not_imp_left.mpr hw.relay.modemValues_eq_nil
    refine ⟨hattended, rfl, ?_, ?_, ?_, ?_, ?_⟩
    · rw [hd]
      exact Scene.entered_handled
    · rw [hbefore]
      exact h.model.arrivals_isPrefix h.attended.commands
    · rw [hbefore, hfired]
      omega
    · rw [hbefore, hwithheld, Scene.sentTo_handled, Scene.arrivals_handled, harrivals,
        hacts.sentTo_turn, hlines, if_pos rfl, ← List.append_assoc, h.delivered, hused,
        List.drop_length_add_append]
      rcases hone with hnone | hnone
      · rw [hnone, List.length_nil, List.drop_zero]
      · rw [hnone, List.drop_nil]
    · have hcount := congrArg List.length hused
      rw [List.length_map, List.length_append] at hcount
      rw [hwithheld, Scene.arrivals_handled, harrivals, howed, hcount, Nat.add_sub_add_left]
      rcases hone with hnone | hnone
      · rw [hnone, List.length_nil, Nat.zero_sub]
      · rw [hnone, List.length_nil, Nat.sub_zero]

end Comparing

namespace HandedOver

theorem turn (h : HandedOver answer? commands r σ)
    (hc : ∀ line, answer? .modemManager line = none) (ht : Turn answer? r σ d r' σ') :
    HandedOver answer? commands r' σ' := by
  have hw := h.attended.world
  cases ht with
  | @intro agenda r₁ actions σ₁ hp hm hacts deliveries =>
    have hn := h.attended.mode?_eq hp
    obtain ⟨hmode, hlines, howed⟩ := hm.lines_passThrough h.mode hn
    have hattended :=
      h.attended.acts hc hp hm hacts (hm.lines_modem_passThrough h.mode hn) deliveries
    obtain ⟨hentered, hsame⟩ := hacts.beforeHandover_later h.entered d.event r₁.mode
    have hmodels : (σ₁.handled d.event r₁.mode).beforeHandover.arrivals .model = _ :=
      Scene.arrivals_congr hsame
    refine ⟨hattended, hmode, hentered, hmodels ▸ h.model, ?_, ?_, ?_⟩
    · rw [hmodels, Scene.fired_congr hsame]
      exact h.fired
    · -- what the modem owes is what is still to be dropped of the answers to come
      rw [hmodels, Scene.withheld_congr hsame, Scene.sentTo_handled, Scene.arrivals_handled,
        hacts.sentTo_turn, hacts.lines_turn hw.agenda hp, hlines, h.delivered, h.owed,
        List.drop_append, List.length_map, List.append_assoc]
    · rw [Scene.withheld_congr hsame, Scene.arrivals_handled, hacts.arrivals_turn hw.agenda hp,
        howed, h.owed, List.length_append, Nat.sub_add_eq]
      cases d.event.line? .modem <;> rfl

/-- At the end the client has got the model's answers to the first commands, as many as had come,
and the modem's to all but those that were withheld. -/
theorem delivered_eq (h : HandedOver answer? commands r σ) (he : σ.agenda.size = 0) :
    σ.sentTo .modemManager =
      (commands.filterMap (answer? .model)).take (σ.beforeHandover.arrivals .model).length ++
        (commands.filterMap (answer? .modem)).drop σ.withheld := by
  have hmodels := List.prefix_iff_eq_take.mp h.model
  rw [List.length_map] at hmodels
  rw [h.delivered, h.attended.modem.answers_eq h.attended.commands he, ← hmodels]

end HandedOver

/-- The start of a session that is going to hand the client over. -/
theorem Start.comparing {s : Scenario} {time : UInt64} (h : s.Start r σ)
    (hmodem : s.modem.isSome = true) (hmode : s.mode = .splitVerify)
    (hs : s.steps.filter (!·.isCommand) = [.setMode time .passThrough]) :
    Comparing s.answer? s.commands r σ := by
  have hswitch : ∀ step ∈ s.steps, step.isCommand = false → step = .setMode time .passThrough := by
    intro step hstep hcommand
    have hmem : step ∈ s.steps.filter (!·.isCommand) :=
      List.mem_filter.mpr ⟨hstep, by simp [hcommand]⟩
    rw [hs] at hmem
    exact List.mem_singleton.mp hmem
  have hnone : ∀ e, e ≠ .modemManager → σ.coming e = [] := by
    intro e he
    refine h.coming_eq_nil fun step hstep line hevent => ?_
    cases step with
    | command =>
      cases hevent
      exact he rfl
    | inject => cases hswitch _ hstep rfl
    | setMode => cases hevent
  refine ⟨⟨h.world, ?_, ?_, h.consulted (hnone _ nofun)⟩,
    h.mode_eq_splitVerify hmodem hmode, ?_, h.consulted (hnone _ nofun), ?_, ⟨[], ?_, ?_⟩, ?_⟩
  · intro x hx
    rw [h.agenda] at hx
    obtain ⟨step, hstep, hk⟩ := lane_postAll hx
    cases step with
    | command | inject => cases hk
    | setMode =>
      cases hswitch _ hstep rfl
      exact (Option.some.inj hk).symm
  · refine h.stream_manager fun step hstep line hevent => ?_
    cases step with
    | command time line' =>
      cases hevent
      exact ⟨time, rfl⟩
    | inject => cases hswitch _ hstep rfl
    | setMode => cases hevent
  · have hmem : .setMode time .passThrough ∈ s.steps.filter (!·.isCommand) := by
      rw [hs]
      exact List.mem_singleton_self _
    obtain ⟨slot, hslot⟩ := exists_mem_lane_postAll (List.mem_filter.mp hmem).1
      (rfl : Input.mode? (.setMode .passThrough) = _)
    rw [h.agenda]
    exact List.ne_nil_of_mem hslot
  · rw [h.sentTo, h.arrivals, h.modelValues]
    rfl
  · rw [h.arrivals, h.modemValues]
    rfl
  · rw [h.fired, h.sentTo]
    rfl
  · simp [Scene.Entered, h.transcript, Observed.isHandover, hmode]

/-- The answers to the first commands are the first answers, where every command is answered. -/
private theorem filterMap_take_drop {answer : String → Option String} {commands : List String}
    (ha : ∀ line ∈ commands, (answer line).isSome = true) {k : Nat} (hk : k ≤ commands.length) :
    (commands.filterMap answer).take k = (commands.take k).filterMap answer ∧
      (commands.filterMap answer).drop k = (commands.drop k).filterMap answer := by
  have hlen : ((commands.take k).filterMap answer).length = k := by
    rw [List.filterMap_length_eq_length.mpr fun line hline => ha line (List.mem_of_mem_take hline),
      List.length_take_of_le hk]
  have hsplit : commands.filterMap answer =
      (commands.take k).filterMap answer ++ (commands.drop k).filterMap answer := by
    rw [← List.filterMap_append, List.take_append_drop]
  rw [hsplit]
  exact ⟨List.take_left' hlen, List.drop_left' hlen⟩

section Play

variable (s : Scenario) {modem : Responder.Config} {time : UInt64} {n : Nat} {session : Session}
  (hmodem : s.modem = some modem) (hmode : s.mode = .splitVerify)
  (hs : s.steps.filter (!·.isCommand) = [.setMode time .passThrough])
  (ha : ∀ line ∈ s.commands,
    (s.model.response? line).isSome = true ∧ (modem.response? line).isSome = true)
  (hplay : s.play = .done n session) (hend : session.agenda.size = 0)

include hmodem hmode hs hplay hend

theorem play_handedOver : HandedOver s.answer? s.commands session.relay session.scene := by
  have h : Comparing s.answer? s.commands session.relay session.scene ∨
      HandedOver s.answer? s.commands session.relay session.scene := by
    refine play_done (I := fun r σ => Comparing s.answer? s.commands r σ ∨
      HandedOver s.answer? s.commands r σ) ?_ ?_ ?_ hplay
    · exact fun h => h.elim (·.attended.world.relay) (·.attended.world.relay)
    · intro r σ d r' σ' h ht
      have hc : ∀ line, s.answer? .modemManager line = none := fun _ => rfl
      rcases h with h | h
      · cases hd : d.event with
        | setMode mode =>
          refine .inr (h.handover hc ht ?_)
          cases ht with
          | intro hp =>
            have := h.attended.mode?_eq hp mode (by rw [hd]; rfl)
            rw [hd, this]
        | line | timer => exact .inl (h.stay hc ht (by rw [hd]; rfl))
      · exact .inr (h.turn hc ht)
    · exact fun h => .inl (h.comparing (by simp [hmodem]) hmode hs)
  exact h.resolve_left fun h => h.planned (Agenda.lane_of_size hend)

include ha

/-- What the client gets in a session that hands it over to the modem. -/
theorem delivered_of_handedOver :
    (session.scene.beforeHandover.arrivals .model).length ≤ s.commands.length ∧
      session.scene.beforeHandover.fired.length ≤
        (session.scene.beforeHandover.arrivals .model).length ∧
      session.delivered =
        (s.commands.take (session.scene.beforeHandover.arrivals .model).length).filterMap
            s.model.response? ++
          (s.commands.drop session.scene.withheld).filterMap modem.response? := by
  have h := play_handedOver s hmodem hmode hs hplay hend
  have hmodels := h.model.length_le
  rw [answer?_model, List.length_map,
    List.filterMap_length_eq_length.mpr fun line hline => (ha line hline).1] at hmodels
  have hwithheld : session.scene.withheld ≤ s.commands.length :=
    Nat.le_trans (Nat.sub_le ..) hmodels
  refine ⟨hmodels, h.fired, (h.delivered_eq hend).trans ?_⟩
  rw [answer?_model, answer?_modem hmodem,
    (filterMap_take_drop (fun line hline => (ha line hline).1) hmodels).1,
    (filterMap_take_drop (fun line hline => (ha line hline).2) hwithheld).2]

end Play

/-- **The client gets a line for each command and one for each timer that has fired** before the
pass-through mode is entered, in every session that compares answers until then and comes to its
end. -/
theorem length_delivered_handover (s : Scenario) {modem : Responder.Config} {time : UInt64}
    {n : Nat} {session : Session} (hmodem : s.modem = some modem) (hmode : s.mode = .splitVerify)
    (hs : s.steps.filter (!·.isCommand) = [.setMode time .passThrough])
    (ha : ∀ line ∈ s.commands,
      (s.model.response? line).isSome = true ∧ (modem.response? line).isSome = true)
    (hplay : s.play = .done n session) (hend : session.agenda.size = 0) :
    session.delivered.length =
      s.commands.length + session.scene.beforeHandover.fired.length := by
  obtain ⟨hmodels, hfired, hdelivered⟩ :=
    delivered_of_handedOver s hmodem hmode hs ha hplay hend
  have hours := List.filterMap_length_eq_length.mpr fun line hline =>
    (ha line (List.mem_of_mem_take (i := (session.scene.beforeHandover.arrivals .model).length)
      hline)).1
  have htheirs := List.filterMap_length_eq_length.mpr fun line hline =>
    (ha line (List.mem_of_mem_drop (i := session.scene.withheld) hline)).2
  rw [hdelivered, List.length_append, hours, htheirs, List.length_take_of_le hmodels,
    List.length_drop, Scene.withheld]
  omega

/-- A session whose modem is too late for a command, and answers it once the mode has changed. -/
def overdue : Scenario where
  mode := .splitVerify
  relay := { responseTimeout := .ofMillis 10 }
  modem := some { latency := 50, fallback := some "Telit" }
  model := { fallback := some "Telit" }
  steps := [.command 0 "ATI", .setMode 20 .passThrough]

theorem length_delivered_handover_overdue :
    ∃ n session, overdue.play = .done n session ∧ session.agenda.size = 0 ∧
      session.delivered.length = 1 + 1 := by
  obtain ⟨n, hplay⟩ := overdue.play_eq_done (by decide +kernel)
  have hend : overdue.evaluate.state.agenda.size = 0 := by decide +kernel
  have hlength := length_delivered_handover overdue rfl rfl rfl (by decide +kernel) hplay hend
  exact ⟨n, _, hplay, hend, hlength.trans (by decide +kernel)⟩

/-- The client may get two lines for one command. -/
theorem not_forall_length_delivered_eq :
    ¬∀ (s : Scenario) (modem : Responder.Config) (time : UInt64) (n : Nat) (session : Session),
      s.modem = some modem → s.mode = .splitVerify →
      s.steps.filter (!·.isCommand) = [.setMode time .passThrough] →
      (∀ line ∈ s.commands,
        (s.model.response? line).isSome = true ∧ (modem.response? line).isSome = true) →
      s.play = .done n session → session.agenda.size = 0 →
      session.delivered.length = s.commands.length := by
  intro h
  obtain ⟨n, hplay⟩ := overdue.play_eq_done (by decide +kernel)
  have hlength := h overdue _ 20 n _ rfl rfl (by decide) (by decide +kernel) hplay
    (by decide +kernel)
  revert hlength
  decide +kernel

/-- **The client is handed over cleanly where no timer has fired**: it gets the model's answers to
the first commands, as many as had come when the pass-through mode was entered, and the modem's
answers to all others, in the order of the commands. -/
theorem delivered_handover (s : Scenario) {modem : Responder.Config} {time : UInt64} {n : Nat}
    {session : Session} (hmodem : s.modem = some modem) (hmode : s.mode = .splitVerify)
    (hs : s.steps.filter (!·.isCommand) = [.setMode time .passThrough])
    (ha : ∀ line ∈ s.commands,
      (s.model.response? line).isSome = true ∧ (modem.response? line).isSome = true)
    (hplay : s.play = .done n session) (hend : session.agenda.size = 0)
    (hquiet : session.scene.beforeHandover.fired = []) :
    session.delivered =
      (s.commands.take (session.scene.beforeHandover.arrivals .model).length).filterMap
          s.model.response? ++
        (s.commands.drop (session.scene.beforeHandover.arrivals .model).length).filterMap
          modem.response? := by
  obtain ⟨-, -, hdelivered⟩ := delivered_of_handedOver s hmodem hmode hs ha hplay hend
  rwa [Scene.withheld, hquiet, List.length_nil, Nat.sub_zero] at hdelivered

/-- A session that changes its mode while two exchanges wait for the modem and a third command has
been answered by neither side. -/
def midway : Scenario where
  mode := .splitVerify
  relay := { responseTimeout := .ofMillis 100 }
  modem := some
    { latency := 20
      responses := Std.ExtTreeMap.ofList [("ATI", "Telit"), ("AT+CSQ", "+CSQ: 20,0")]
      fallback := some "OK" }
  model :=
    { latency := 5
      responses := Std.ExtTreeMap.ofList [("ATI", "Model"), ("AT+CSQ", "+CSQ: 17,0")]
      fallback := some "ERROR" }
  steps := [.command 10 "ATZ", .command 0 "AT+CSQ", .setMode 12 .passThrough, .command 2 "ATI",
    .command 40 "ATI"]

theorem delivered_handover_midway :
    ∃ n session, midway.play = .done n session ∧ session.agenda.size = 0 ∧
      session.scene.beforeHandover.fired = [] ∧
      session.delivered = ["+CSQ: 17,0", "Model"] ++ ["OK", "Telit"] := by
  obtain ⟨n, hplay⟩ := midway.play_eq_done (by decide +kernel)
  have hend : midway.evaluate.state.agenda.size = 0 := by decide +kernel
  have hquiet : midway.evaluate.state.scene.beforeHandover.fired = [] := by decide +kernel
  have hdelivered := delivered_handover midway rfl rfl rfl (by decide +kernel) hplay hend
    hquiet
  exact ⟨n, _, hplay, hend, hquiet, hdelivered.trans (by decide +kernel)⟩

end ModemRelay.Scenario
