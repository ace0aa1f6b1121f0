import ModemRelay.Proofs.Simulation.World

/-!
# The lines of a session over time

The lines from an endpoint that have come and those that are to come form its stream
(`Scene.stream`). A line that comes moves within the stream, and an endpoint that is sent a line
adds its answer at the end (`World.stream_acts`): nothing is lost, and nothing overtakes.
-/

namespace ModemRelay.Simulation
open Relay

namespace Scene

/-- All lines from an endpoint, with their times: those that have come, then those to come. -/
def stream (σ : Scene) (e : Endpoint) : List (Duration × String) :=
  σ.arrivals e ++ (σ.coming e).map fun x => (x.1.due, x.2)

variable {σ σ' : Scene} {d : Due} {agenda : Agenda} {e : Endpoint} {input : Input} {mode : Mode}

/-- Where nothing is to happen, all lines have come. -/
theorem stream_of_idle (h : σ.agenda.size = 0) (e : Endpoint) : σ.stream e = σ.arrivals e := by
  rw [stream, coming, Agenda.lane_of_size h, List.map_nil, List.append_nil]

theorem arrivals_isPrefix_stream (σ : Scene) (e : Endpoint) : σ.arrivals e <+: σ.stream e :=
  List.prefix_append ..

@[simp] theorem coming_handled : (σ.handled input mode).coming e = σ.coming e := by
  rw [coming, agenda_handled, coming]

@[simp] theorem stream_handled : (σ.handled input mode).stream e = σ.stream e := by
  rw [stream, arrivals_handled, coming_handled, stream]

theorem Promised.handled (h : σ.Promised e) : (σ.handled input mode).Promised e := by
  rw [Promised, coming_handled, busy_handled]
  exact h

/-- The line that comes was the first to come. -/
theorem coming_heard (hp : σ.agenda.popNext = some (d, agenda)) :
    σ.coming e =
      ((d.event.line? e).map (⟨d.time, d.key⟩, ·)).toList ++
        (heard { σ with agenda } d).coming e := by
  rw [coming, coming, agenda_heard]
  exact Agenda.lane_popNext hp _

theorem arrivals_heard_pop (hs : σ.agenda.Sound) (hp : σ.agenda.popNext = some (d, agenda)) :
    (heard { σ with agenda } d).arrivals e =
      σ.arrivals e ++ ((d.event.line? e).map (d.time, ·)).toList := by
  rw [arrivals_heard, ← hs.now_of_popNext hp]
  rfl

theorem stream_heard (hs : σ.agenda.Sound) (hp : σ.agenda.popNext = some (d, agenda)) :
    (heard { σ with agenda } d).stream e = σ.stream e := by
  rw [stream, stream, arrivals_heard_pop hs hp, coming_heard hp]
  cases d.event.line? e <;> simp

variable {actions : List Action} {answer? : Endpoint → String → Option String}

theorem ActsAll.now_turn (hacts : ActsAll answer? actions (heard { σ with agenda } d) σ')
    (hs : σ.agenda.Sound) (hp : σ.agenda.popNext = some (d, agenda)) :
    σ'.agenda.now = d.time := by
  rw [hacts.now_eq, agenda_heard, hs.now_of_popNext hp]

theorem ActsAll.arrivals_turn (hacts : ActsAll answer? actions (heard { σ with agenda } d) σ')
    (hs : σ.agenda.Sound) (hp : σ.agenda.popNext = some (d, agenda)) :
    σ'.arrivals e = σ.arrivals e ++ ((d.event.line? e).map (d.time, ·)).toList := by
  rw [hacts.arrivals_eq, arrivals_heard_pop hs hp]

theorem ActsAll.lines_turn (hacts : ActsAll answer? actions (heard { σ with agenda } d) σ')
    (hs : σ.agenda.Sound) (hp : σ.agenda.popNext = some (d, agenda)) :
    (σ'.arrivals e).map (·.2) = (σ.arrivals e).map (·.2) ++ (d.event.line? e).toList := by
  rw [hacts.arrivals_turn hs hp, List.map_append]
  cases d.event.line? e <;> rfl

theorem ActsAll.sentTo_turn (hacts : ActsAll answer? actions (heard { σ with agenda } d) σ') :
    σ'.sentTo e = σ.sentTo e ++ actions.filterMap (·.line? e) := by
  rw [hacts.sentTo_eq, sentTo_heard]
  rfl

theorem ActsAll.fired_turn (hacts : ActsAll answer? actions (heard { σ with agenda } d) σ') :
    σ'.fired = σ.fired ++ d.event.timer?.toList := by
  rw [hacts.fired_eq, fired_heard]
  rfl

theorem ActsAll.failures_turn (hacts : ActsAll answer? actions (heard { σ with agenda } d) σ') :
    σ'.failures = σ.failures ++ actions.filterMap (·.failure?) := by
  rw [hacts.failures_eq, failures_heard]
  rfl

theorem Promised.heard (h : σ.Promised e) (hp : σ.agenda.popNext = some (d, agenda)) :
    (heard { σ with agenda } d).Promised e := by
  intro x hx
  rw [busy_heard]
  exact h x (coming_heard hp ▸ List.mem_append_right _ hx)

end Scene

namespace World

variable {r r' : Relay} {σ σ' : Scene} {d : Due} {agenda : Agenda} {handle : TimerHandle}
  {actions : List Action} {answer? : Endpoint → String → Option String} {e : Endpoint}

/-- **The answers to the lines that an endpoint is sent join its stream at the end**, behind what
is to come after the line that has come. -/
theorem stream_acts (h : World r σ) (hp : σ.agenda.popNext = some (d, agenda))
    (hm : Move r handle d.event r' actions)
    (hacts : Scene.ActsAll answer? actions (Scene.heard { σ with agenda } d) σ')
    (hprom : σ.Promised e) :
    σ'.Promised e ∧ ∃ rest new,
      σ.coming e = ((d.event.line? e).map (⟨d.time, d.key⟩, ·)).toList ++ rest ∧
        σ'.coming e = rest ++ new ∧
        σ'.stream e = σ.stream e ++ new.map (fun x => (x.1.due, x.2)) ∧
        new.map (·.2) = (actions.filterMap (·.line? e)).filterMap (answer? e) := by
  obtain ⟨hprom', new, hnew, hv⟩ := hacts.coming_eq (h.ready hp hm) (hprom.heard hp)
  refine ⟨hprom', _, new, Scene.coming_heard hp, hnew, ?_, hv⟩
  rw [← Scene.stream_heard h.agenda hp, Scene.stream, Scene.stream, hacts.arrivals_eq, hnew,
    List.map_append, List.append_assoc]

/-- **The model's answers that have been handed over and those that wait are those that have come**,
in their order, unless the pass-through mode is entered. -/
theorem delivered_acts (h : World r σ) (hp : σ.agenda.popNext = some (d, agenda))
    (hm : Move r handle d.event r' actions)
    (hacts : Scene.ActsAll answer? actions (Scene.heard { σ with agenda } d) σ')
    (hmode : r.mode ≠ .passThrough) (hn : d.event.mode? ≠ some .passThrough)
    (hd : σ.sentTo .modemManager ++ r.pending.modelValues = (σ.arrivals .model).map (·.2)) :
    σ'.sentTo .modemManager ++ r'.pending.modelValues = (σ'.arrivals .model).map (·.2) := by
  have hmanager := hm.lines_manager h.relay hmode hn (h.timers_pop hp)
  rw [hacts.sentTo_turn, hacts.lines_turn h.agenda hp, List.append_assoc, hmanager,
    ← List.append_assoc, hd]

/-- Events that nothing leads to only get fewer. -/
theorem lane_acts (h : World r σ) (hp : σ.agenda.popNext = some (d, agenda))
    (hm : Move r handle d.event r' actions)
    (hacts : Scene.ActsAll answer? actions (Scene.heard { σ with agenda } d) σ')
    {kind : Input → Option β} (ht : ∀ x, kind (.timer x) = none)
    (hk : ∀ e line answer, answer? e line = some answer → kind (.line e answer) = none) :
    σ.agenda.lane kind =
      ((kind d.event).map (⟨d.time, d.key⟩, ·)).toList ++ σ'.agenda.lane kind := by
  rw [hacts.lane_eq (h.ready hp hm) ht hk, Scene.agenda_heard]
  exact Agenda.lane_popNext hp kind

/-- Nothing leads to a change of the mode but the steps that are planned. -/
theorem modes_acts (h : World r σ) (hp : σ.agenda.popNext = some (d, agenda))
    (hm : Move r handle d.event r' actions)
    (hacts : Scene.ActsAll answer? actions (Scene.heard { σ with agenda } d) σ') :
    σ.agenda.lane Input.mode? =
      (d.event.mode?.map (⟨d.time, d.key⟩, ·)).toList ++ σ'.agenda.lane Input.mode? :=
  h.lane_acts hp hm hacts (fun _ => rfl) fun _ _ _ _ => rfl

/-- The stream of an endpoint that answers nothing stays as it is. -/
theorem stream_acts_of_silent (h : World r σ) (hp : σ.agenda.popNext = some (d, agenda))
    (hm : Move r handle d.event r' actions)
    (hacts : Scene.ActsAll answer? actions (Scene.heard { σ with agenda } d) σ')
    (hs : ∀ line, answer? e line = none) : σ'.stream e = σ.stream e := by
  have hlane : σ'.coming e = (Scene.heard { σ with agenda } d).coming e := by
    refine hacts.lane_eq (h.ready hp hm) (fun _ => rfl) fun target line answer ha => ?_
    rw [Input.line?_line, if_neg]
    rintro rfl
    rw [hs] at ha
    cases ha
  rw [← Scene.stream_heard h.agenda hp, Scene.stream, Scene.stream, hacts.arrivals_eq, hlane]

end World

namespace Scene

variable {σ σ' : Scene} {answer? : Endpoint → String → Option String} {e : Endpoint}

/-- Each command that has come has been put to the endpoint, and its answers come in the order in
which it has been asked. -/
structure Consulted (answer? : Endpoint → String → Option String) (e : Endpoint) (σ : Scene) :
    Prop where
  promised : σ.Promised e
  asked : σ.sentTo e = (σ.arrivals .modemManager).map (·.2)
  answered : (σ.stream e).map (·.2) = (σ.sentTo e).filterMap (answer? e)

namespace Consulted

theorem handled (h : σ.Consulted answer? e) {input : Input} {mode : Mode} :
    (σ.handled input mode).Consulted answer? e where
  promised := h.promised.handled
  asked := by rw [sentTo_handled, arrivals_handled, h.asked]
  answered := by rw [stream_handled, sentTo_handled, h.answered]

/-- An endpoint that is put each command stays consulted. -/
theorem acts (h : σ.Consulted answer? e) {r r' : Relay} {d : Due} {agenda : Agenda}
    {handle : TimerHandle} {actions : List Action} (hw : World r σ)
    (hp : σ.agenda.popNext = some (d, agenda)) (hm : Move r handle d.event r' actions)
    (hacts : ActsAll answer? actions (heard { σ with agenda } d) σ')
    (hl : actions.filterMap (·.line? e) = (d.event.line? .modemManager).toList) :
    σ'.Consulted answer? e := by
  obtain ⟨hprom, -, new, -, -, hstream, hnew⟩ := hw.stream_acts hp hm hacts h.promised
  refine ⟨hprom, ?_, ?_⟩
  · rw [hacts.sentTo_turn, hacts.lines_turn hw.agenda hp, h.asked, hl]
  · rw [hstream, hacts.sentTo_turn, List.map_append, List.map_map, List.filterMap_append,
      h.answered, ← hnew]
    rfl

/-- The answers that have come are the first of those to all that the client says. -/
theorem arrivals_isPrefix (h : σ.Consulted answer? e) {commands : List String}
    (hc : (σ.stream .modemManager).map (·.2) = commands) :
    (σ.arrivals e).map (·.2) <+: commands.filterMap (answer? e) := by
  have hanswers := (σ.arrivals_isPrefix_stream e).map (·.2)
  rw [h.answered, h.asked] at hanswers
  refine hanswers.trans (List.IsPrefix.filterMap _ ?_)
  exact hc ▸ (σ.arrivals_isPrefix_stream .modemManager).map (·.2)

/-- At the end the answers to all that the client has said have come. -/
theorem answers_eq (h : σ.Consulted answer? e) {commands : List String}
    (hc : (σ.stream .modemManager).map (·.2) = commands) (he : σ.agenda.size = 0) :
    (σ.arrivals e).map (·.2) = commands.filterMap (answer? e) := by
  rw [← hc, ← stream_of_idle he, h.answered, h.asked, stream_of_idle he]

/-- Where every command is answered there are as many answers, come or to come, as commands have
come. -/
theorem length_stream (h : σ.Consulted answer? e)
    (ha : ∀ line ∈ (σ.arrivals .modemManager).map (·.2), (answer? e line).isSome = true) :
    (σ.stream e).length = (σ.arrivals .modemManager).length := by
  have hlen := congrArg List.length h.answered
  rw [h.asked, List.length_map, List.filterMap_length_eq_length.mpr ha, List.length_map] at hlen
  exact hlen

end Consulted

end Scene

end ModemRelay.Simulation
