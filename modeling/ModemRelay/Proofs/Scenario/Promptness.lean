import Mathlib.Data.List.Forall2
import ModemRelay.Proofs.Scenario.Evaluation
import ModemRelay.Proofs.Scenario.Timeline
import ModemRelay.Proofs.Simulation.Sightings

/-!
# How long the client waits

As long as the pass-through mode is never entered, the client gets each answer of the model within
the response timeout, in the order in which they come (`prompt_sendings`). `Prompt` says how far a
session has got with that: of the model's answers that have come the first have been handed over in
time, and each of the others has a timer, which is due when its time is over.
-/

namespace ModemRelay.Scenario
open Simulation Relay

/-- A line is sent on as it was received, and in time. -/
def InTime (timeout : Duration) (received sent : Duration × String) : Prop :=
  sent.2 = received.2 ∧ received.1 ≤ sent.1 ∧ sent.1.nanos ≤ received.1.nanos + timeout.nanos

/-- A timer fires when the time of an answer is over. -/
def Guards (timeout : Duration) (received : Duration × String) (timer : Slot × ExchangeId) : Prop :=
  timer.1.due.nanos = received.1.nanos + timeout.nanos

/-- A session that hands the model's answers over in time: those that still wait are `waiting`. -/
structure Prompt (timeout : Duration) (r : Relay) (σ : Scene)
    (handed waiting : List (Duration × String)) : Prop where
  world : World r σ
  config : r.config.responseTimeout = timeout
  mode : r.mode ≠ .passThrough
  modes : ∀ x ∈ σ.agenda.lane Input.mode?, x.2 ≠ .passThrough
  arrivals : σ.arrivals .model = handed ++ waiting
  handed : List.Forall₂ (InTime timeout) handed (σ.sendings .modemManager)
  answers : waiting.map (·.2) = r.pending.modelValues
  guarded : List.Forall₂ (Guards timeout) waiting σ.timers

theorem forall₂_inTime {timeout now : Duration} {l : List (Duration × String)}
    (h : ∀ a ∈ l, a.1 ≤ now ∧ now.nanos ≤ a.1.nanos + timeout.nanos) :
    List.Forall₂ (InTime timeout) l ((l.map (·.2)).map (now, ·)) := by
  rw [List.map_map, List.forall₂_map_right_iff, List.forall₂_same]
  exact fun a ha => ⟨rfl, h a ha⟩

theorem forall₂_suffix {R : α → β → Prop} {as as' : List α} {bs bs' : List β}
    (h : List.Forall₂ R as bs) (ha : as' <:+ as) (hb : bs' <:+ bs) (hl : as'.length = bs'.length) :
    List.Forall₂ R as' bs' := by
  have hlen := h.length_eq
  obtain ⟨gone, rfl⟩ := ha
  obtain ⟨gone', rfl⟩ := hb
  rw [List.length_append, List.length_append] at hlen
  have hdrop := List.forall₂_drop gone.length h
  have hgone : gone.length = gone'.length := by omega
  rwa [List.drop_left, hgone, List.drop_left] at hdrop

theorem forall_of_forall₂ {R : α → β → Prop} {p : α → Prop} {q : β → Prop} {as : List α}
    {bs : List β} (h : List.Forall₂ R as bs) (hq : ∀ b ∈ bs, q b) (hp : ∀ a b, R a b → q b → p a) :
    ∀ a ∈ as, p a := by
  induction h with
  | nil => exact fun _ ha => nomatch ha
  | cons hr _ ih =>
    rw [List.forall_mem_cons] at hq ⊢
    exact ⟨hp _ _ hr hq.1, ih hq.2⟩

namespace Prompt

variable {timeout : Duration} {r r' : Relay} {σ σ' : Scene}
  {handed waiting : List (Duration × String)} {d : Due} {agenda : Agenda} {actions : List Action}
  {answer? : Endpoint → String → Option String}

/-- The answers that wait have come before the next event, and it comes before their time is
over. -/
theorem waiting_times (h : Prompt timeout r σ handed waiting)
    (hp : σ.agenda.popNext = some (d, agenda)) :
    ∀ a ∈ waiting, a.1 ≤ d.time ∧ d.time.nanos ≤ a.1.nanos + timeout.nanos := by
  refine forall_of_forall₂ (q := fun t => d.time ≤ t.1.due ∧
    t.1.due.nanos ≤ d.time.nanos + timeout.nanos) h.guarded (fun t ht => ⟨?_, ?_⟩) ?_
  · have hle := (Agenda.popNext_eq_some hp).2 _ (Agenda.mem_queue_of_mem_lane ht)
    rw [Slot.compare_isLE] at hle
    rw [Duration.le_def]
    dsimp only at hle
    omega
  · have hclock := h.world.agenda.now_le_of_popNext hp
    rw [h.world.agenda.now_of_popNext hp] at hclock
    exact Nat.le_trans (h.config ▸ h.world.bounded t ht) (Nat.add_le_add_right hclock _)
  · rintro a t hdue ⟨hafter, hbefore⟩
    rw [Guards] at hdue
    rw [Duration.le_def] at hafter ⊢
    omega

/-- Each answer that is left waiting has its timer. -/
theorem guarded_acts (h : Prompt timeout r σ handed waiting)
    (hp : σ.agenda.popNext = some (d, agenda))
    (hm : Move r ⟨agenda.nextKey⟩ d.event r' actions)
    (hacts : Scene.ActsAll answer? actions (Scene.heard { σ with agenda } d) σ')
    {gone rest : List (Duration × String)}
    (hall : waiting ++ ((d.event.line? .model).map (d.time, ·)).toList = gone ++ rest)
    (hgone : gone.map (·.2) = actions.filterMap (·.line? .modemManager))
    (hrest : rest.map (·.2) = r'.pending.modelValues) :
    List.Forall₂ (Guards timeout) rest σ'.timers := by
  have hworld := (h.world.hears_pop hp).acts (by rwa [Scene.agenda_heard]) hacts
  by_cases harm : ∃ delay x, .arm delay x ∈ actions
  · obtain ⟨delay, x, hmem⟩ := harm
    obtain ⟨line, hd, rfl, rfl, -⟩ := hm.of_arm hmem
    obtain ⟨due, hdue, htimers⟩ := h.world.timers_of_arm hp hacts
    have hsame : σ.timers = agenda.lane Input.timer? := by
      rw [Scene.timers, Agenda.lane_popNext hp, hd]
      rfl
    obtain rfl : gone = [] := List.map_eq_nil_iff.mp hgone
    rw [List.nil_append] at hall
    rw [← hall, htimers, ← hsame, hd]
    refine List.rel_append h.guarded (.cons ?_ .nil)
    rw [Guards, hdue, h.world.agenda.now_of_popNext hp, h.config]
  · have harm : ∀ delay x, .arm delay x ∉ actions := fun delay x hmem => harm ⟨delay, x, hmem⟩
    have hlen : rest.length = σ'.timers.length := by
      have htimers := congrArg List.length hworld.timers
      rw [tagged, List.length_map, hworld.relay.length_timers, ← hrest, List.length_map] at htimers
      exact htimers.symm
    refine forall₂_suffix h.guarded ?_ (h.world.timers_isSuffix hp hm hacts harm) hlen
    cases hline : d.event.line? .model with
    | none =>
      rw [hline] at hall
      exact ⟨gone, by simpa using hall.symm⟩
    | some line =>
      rw [Input.line?_eq_some] at hline
      rw [hline] at hm
      rw [hm.modelValues_of_not_arm h.world.relay harm, List.map_eq_nil_iff] at hrest
      exact hrest ▸ List.nil_suffix

/-- **Every turn hands answers over in time.** -/
theorem turn (h : Prompt timeout r σ handed waiting) (ht : Turn answer? r σ d r' σ') :
    ∃ handed' waiting', Prompt timeout r' σ' handed' waiting' := by
  have hw := h.world.turn ht
  cases ht with
  | @intro agenda r₁ actions σ₁ hp hm hacts deliveries =>
    have hmodes := h.world.modes_acts hp hm hacts
    have hnext : d.event.mode? ≠ some .passThrough := fun hd =>
      Agenda.of_popNext (p := (· ≠ .passThrough)) hp h.modes _ hd rfl
    have hlines := hm.lines_manager h.world.relay h.mode hnext (h.world.timers_pop hp)
    have hnow : agenda.now = d.time := h.world.agenda.now_of_popNext hp
    have hall : (waiting ++ ((d.event.line? .model).map (d.time, ·)).toList).map (·.2) =
        actions.filterMap (·.line? .modemManager) ++ r₁.pending.modelValues := by
      rw [hlines, List.map_append, h.answers]
      cases d.event.line? .model <;> rfl
    obtain ⟨gone, rest, hsplit, hgone, hrest⟩ := List.map_eq_append_iff.mp hall
    have htimes : ∀ a ∈ gone ++ rest,
        a.1 ≤ d.time ∧ d.time.nanos ≤ a.1.nanos + timeout.nanos := by
      rw [← hsplit]
      refine List.forall_mem_append.mpr ⟨h.waiting_times hp, fun a ha => ?_⟩
      obtain ⟨line, -, rfl⟩ := Option.map_eq_some_iff.mp (Option.mem_toList.mp ha)
      exact ⟨Nat.le_refl _, Nat.le_add_right ..⟩
    refine ⟨handed ++ gone, rest, hw, (congrArg _ hm.config_eq).trans h.config,
      hm.mode_ne_passThrough h.mode hnext, ?_, ?_, ?_, hrest, ?_⟩
    · rw [Scene.agenda_handled]
      exact fun x hx => h.modes x (hmodes ▸ List.mem_append_right _ hx)
    · rw [Scene.arrivals_handled, hacts.arrivals_turn h.world.agenda hp, h.arrivals,
        List.append_assoc, List.append_assoc, ← hsplit]
    · rw [Scene.sendings_handled, hacts.sendings_eq, Scene.sendings_heard, Scene.agenda_heard, hnow,
        ← hgone]
      exact List.rel_append h.handed
        (forall₂_inTime fun a ha => htimes a (List.mem_append_left _ ha))
    · rw [Scene.timers, Scene.agenda_handled]
      exact h.guarded_acts hp hm hacts hsplit hgone hrest

/-- At the end all answers have been handed over. -/
theorem forall₂_of_idle (h : Prompt timeout r σ handed waiting) (he : σ.agenda.size = 0) :
    List.Forall₂ (InTime timeout) (σ.arrivals .model) (σ.sendings .modemManager) := by
  have hguarded := h.guarded
  rw [Scene.timers, Agenda.lane_of_size he, List.forall₂_nil_right_iff] at hguarded
  rw [h.arrivals, hguarded, List.append_nil]
  exact h.handed

end Prompt

theorem Start.prompt {s : Scenario} {r : Relay} {σ : Scene} (h : s.Start r σ)
    (hm : s.mode ≠ .passThrough)
    (hs : ∀ step ∈ s.steps, ∀ time, step ≠ .setMode time .passThrough) :
    Prompt s.relay.responseTimeout r σ [] [] where
  world := h.world
  config := congrArg _ h.config
  mode := by
    rw [h.mode]
    split
    · simp
    · exact hm
  modes x hx := by
    rw [h.agenda] at hx
    obtain ⟨step, hstep, hk⟩ := lane_postAll hx
    cases step with
    | command | inject => cases hk
    | setMode time mode =>
      cases hk
      exact fun heq => hs _ hstep time (by rw [heq])
  arrivals := h.arrivals .model
  handed := by
    rw [Scene.sendings, Scene.seen, h.transcript]
    exact .nil
  answers := h.modelValues.symm
  guarded := by
    have htimers := h.world.timers
    rw [PendingQueue.timers, h.pending, List.filterMap_nil, tagged, List.map_eq_nil_iff] at htimers
    rw [htimers]
    exact .nil

/-- **The client gets each answer of the model within the response timeout**, in every session that
never enters the pass-through mode and comes to its end, whoever speaks unasked: as many lines are
sent to it as come from the model, in their order, and none before or too long after it has come. -/
theorem prompt_sendings (s : Scenario) {n : Nat} {session : Session} (hm : s.mode ≠ .passThrough)
    (hs : ∀ step ∈ s.steps, ∀ time, step ≠ .setMode time .passThrough)
    (hplay : s.play = .done n session) (hend : session.agenda.size = 0) :
    List.Forall₂
      (fun received sent => sent.2 = received.2 ∧ received.1 ≤ sent.1 ∧
        sent.1.nanos ≤ received.1.nanos + s.relay.responseTimeout.nanos)
      (session.scene.arrivals .model) (session.scene.sendings .modemManager) := by
  obtain ⟨handed, waiting, h⟩ :=
    play_done (I := fun r σ => ∃ handed waiting, Prompt s.relay.responseTimeout r σ handed waiting)
      (fun ⟨_, _, h⟩ => h.world.relay) (fun ⟨_, _, h⟩ ht => h.turn ht)
      (fun h => ⟨[], [], h.prompt hm hs⟩) hplay
  exact h.forall₂_of_idle hend

/-- A session in which the modem and the model both speak unasked, so that lines which do not belong
together are paired, timers fire, and a change of mode hands over what waits. -/
def unasked : Scenario where
  mode := .splitVerify
  relay := { responseTimeout := .ofMillis 5 }
  modem := some { latency := 3, responses := Std.ExtTreeMap.ofList [("ATI", "Telit")] }
  model := { latency := 1, fallback := some "OK" }
  steps := [.command 0 "ATI", .inject 2 .model "RING", .command 1 "ATZ", .command 8 "AT",
    .setMode 11 .wardModel, .inject 12 .model "NO CARRIER", .setMode 13 .splitVerify,
    .inject 14 .modem "ERROR", .inject 15 .modemManager "ATI"]

theorem prompt_sendings_unasked :
    unasked.mode ≠ .passThrough ∧
      (∀ step ∈ unasked.steps, ∀ time, step ≠ .setMode time .passThrough) ∧
      ∃ n session, unasked.play = .done n session ∧ session.agenda.size = 0 ∧
        (session.scene.arrivals .model).map (fun x => (x.1.millis, x.2)) =
          [(1, "OK"), (2, "RING"), (2, "OK"), (9, "OK"), (12, "NO CARRIER"), (16, "OK")] ∧
        (session.scene.sendings .modemManager).map (fun x => (x.1.millis, x.2)) =
          [(3, "OK"), (7, "RING"), (7, "OK"), (11, "OK"), (12, "NO CARRIER"), (16, "OK")] ∧
        List.Forall₂
          (fun received sent => sent.2 = received.2 ∧ received.1 ≤ sent.1 ∧
            sent.1.nanos ≤ received.1.nanos + unasked.relay.responseTimeout.nanos)
          (session.scene.arrivals .model) (session.scene.sendings .modemManager) := by
  have hm : unasked.mode ≠ .passThrough := by decide
  have hs : ∀ step ∈ unasked.steps, ∀ time, step ≠ .setMode time .passThrough := by
    simp [unasked]
  obtain ⟨n, hplay⟩ := unasked.play_eq_done (by decide +kernel)
  have hend : unasked.evaluate.state.agenda.size = 0 := by decide +kernel
  exact ⟨hm, hs, n, _, hplay, hend, by decide +kernel, by decide +kernel,
    prompt_sendings unasked hm hs hplay hend⟩

end ModemRelay.Scenario
