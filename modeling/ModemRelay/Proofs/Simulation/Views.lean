import ModemRelay.Proofs.Relay.Counters
import ModemRelay.Proofs.Relay.Traffic
import ModemRelay.Proofs.Simulation.Scene

/-!
# What can be read off a scene

The lines that have come from an endpoint, the lines that it has been sent, the timers that have
fired and the failures are read off the transcript; the lines that are still to come from an
endpoint and the timers still to fire are lanes of the agenda. Each section says what carrying out
actions does to one of them.
-/

namespace ModemRelay.Simulation
open Relay

namespace Trace

/-- The line that has come from an endpoint. -/
def received? (source : Endpoint) : Trace → Option String
  | received e line => if e = source then some line else none
  | _ => none

/-- The line that an endpoint has been sent. -/
def sent? (target : Endpoint) : Trace → Option String
  | sent e line => if e = target then some line else none
  | _ => none

/-- The exchange whose timer has fired. -/
def fired? : Trace → Option ExchangeId
  | fired _ x => some x
  | _ => none

/-- The failure that has been reported. -/
def failure? : Trace → Option Failure
  | failed f => some f
  | _ => none

/-- Whether an observation is of something that a relay has asked for. -/
def isRequested : Trace → Bool
  | sent .. | armed .. | cancelled .. | failed _ => true
  | received .. | fired .. | modeChanged .. => false

theorem received?_of_isRequested {trace : Trace} (h : trace.isRequested = true)
    (source : Endpoint) : trace.received? source = none := by
  cases trace <;> first | rfl | cases h

theorem fired?_of_isRequested {trace : Trace} (h : trace.isRequested = true) :
    trace.fired? = none := by
  cases trace <;> first | rfl | cases h

end Trace

namespace Scene

/-- The lines that have come from an endpoint, with their times. -/
def arrivals (σ : Scene) (source : Endpoint) : List (Duration × String) :=
  σ.transcript.filterMap fun o => (o.trace.received? source).map (o.time, ·)

/-- The lines that an endpoint has been sent. -/
def sentTo (σ : Scene) (target : Endpoint) : List String :=
  σ.transcript.filterMap fun o => o.trace.sent? target

/-- The exchanges whose timers have fired. -/
def fired (σ : Scene) : List ExchangeId := σ.transcript.filterMap fun o => o.trace.fired?

/-- The failures that have been reported. -/
def failures (σ : Scene) : List Failure := σ.transcript.filterMap fun o => o.trace.failure?

/-- The lines that are to come from an endpoint. -/
def coming (σ : Scene) (source : Endpoint) : List (Slot × String) :=
  σ.agenda.lane (Input.line? source)

/-- The timers that are to fire. -/
def timers (σ : Scene) : List (Slot × ExchangeId) := σ.agenda.lane Input.timer?

variable {σ σ' : Scene} {a : Action} {actions : List Action} {e : Endpoint} {trace : Trace}
  {answer? : Endpoint → String → Option String}

/-! ## The transcript -/

/-- What is seen of one more observation comes last. -/
theorem filterMap_record (view : Observed → Option β) :
    (σ.record trace).transcript.filterMap view =
      σ.transcript.filterMap view ++ (view ⟨σ.agenda.now, trace⟩).toList := by
  rw [record, List.filterMap_append, filterMap_cons_toList, List.filterMap_nil, List.append_nil]

theorem arrivals_record :
    (σ.record trace).arrivals e =
      σ.arrivals e ++ ((trace.received? e).map (σ.agenda.now, ·)).toList :=
  filterMap_record _

theorem sentTo_record : (σ.record trace).sentTo e = σ.sentTo e ++ (trace.sent? e).toList :=
  filterMap_record _

theorem fired_record : (σ.record trace).fired = σ.fired ++ trace.fired?.toList :=
  filterMap_record _

theorem failures_record : (σ.record trace).failures = σ.failures ++ trace.failure?.toList :=
  filterMap_record _

/-- What is observed of actions comes last, and is of nothing else. -/
theorem Acts.transcript_eq (h : Acts answer? a σ σ') :
    ∃ new, σ'.transcript = σ.transcript ++ new ∧ ∀ o ∈ new, o.trace.isRequested = true := by
  cases h with
  | undelivered => exact ⟨[], (List.append_nil _).symm, by simp⟩
  | silent | asked | armed | cancelled | reported =>
    exact ⟨_, rfl, fun o ho => List.mem_singleton.mp ho ▸ rfl⟩

theorem Acts.sentTo_eq (h : Acts answer? a σ σ') :
    σ'.sentTo e = σ.sentTo e ++ (a.line? e).toList := by
  cases h with
  | undelivered => exact (List.append_nil _).symm
  | silent | asked | armed | cancelled | reported => exact sentTo_record

theorem Acts.failures_eq (h : Acts answer? a σ σ') :
    σ'.failures = σ.failures ++ a.failure?.toList := by
  cases h with
  | undelivered => exact (List.append_nil _).symm
  | silent | asked | armed | cancelled | reported => exact failures_record

theorem ActsAll.transcript_eq (h : ActsAll answer? actions σ σ') :
    ∃ new, σ'.transcript = σ.transcript ++ new ∧ ∀ o ∈ new, o.trace.isRequested = true := by
  induction h with
  | nil => exact ⟨[], (List.append_nil _).symm, by simp⟩
  | cons ha _ ih =>
    obtain ⟨new, ht, hnew⟩ := ha.transcript_eq
    obtain ⟨new', ht', hnew'⟩ := ih
    refine ⟨new ++ new', by rw [ht', ht, List.append_assoc], ?_⟩
    exact List.forall_mem_append.mpr ⟨hnew, hnew'⟩

/-- What no action shows is seen of no actions. -/
private theorem ActsAll.filterMap_transcript (h : ActsAll answer? actions σ σ')
    {view : Observed → Option β} (hv : ∀ o, o.trace.isRequested = true → view o = none) :
    σ'.transcript.filterMap view = σ.transcript.filterMap view := by
  obtain ⟨new, ht, hnew⟩ := h.transcript_eq
  rw [ht, List.filterMap_append, List.filterMap_eq_nil_iff.mpr fun o ho => hv o (hnew o ho),
    List.append_nil]

theorem ActsAll.arrivals_eq (h : ActsAll answer? actions σ σ') : σ'.arrivals e = σ.arrivals e :=
  h.filterMap_transcript fun _ ho => by rw [Trace.received?_of_isRequested ho, Option.map_none]

theorem ActsAll.fired_eq (h : ActsAll answer? actions σ σ') : σ'.fired = σ.fired :=
  h.filterMap_transcript fun _ ho => Trace.fired?_of_isRequested ho

/-- What is seen of actions is what is seen of each. -/
private theorem ActsAll.filterMap_eq {view : Observed → Option β} {seen : Action → Option β}
    (h : ActsAll answer? actions σ σ')
    (hseen : ∀ {a σ σ'}, Acts answer? a σ σ' →
      σ'.transcript.filterMap view = σ.transcript.filterMap view ++ (seen a).toList) :
    σ'.transcript.filterMap view = σ.transcript.filterMap view ++ actions.filterMap seen := by
  induction h with
  | nil => exact (List.append_nil _).symm
  | cons ha _ ih => rw [ih, hseen ha, List.append_assoc, filterMap_cons_toList]

theorem ActsAll.sentTo_eq (h : ActsAll answer? actions σ σ') :
    σ'.sentTo e = σ.sentTo e ++ actions.filterMap (·.line? e) :=
  h.filterMap_eq Acts.sentTo_eq

theorem ActsAll.failures_eq (h : ActsAll answer? actions σ σ') :
    σ'.failures = σ.failures ++ actions.filterMap (·.failure?) :=
  h.filterMap_eq Acts.failures_eq

/-! ## The agenda -/

theorem Acts.now_eq (h : Acts answer? a σ σ') : σ'.agenda.now = σ.agenda.now := by
  cases h with
  | cancelled => exact Agenda.now_cancel ..
  | _ => rfl

theorem Acts.keyed (h : Acts answer? a σ σ') (hs : σ.agenda.Keyed) : σ'.agenda.Keyed := by
  cases h with
  | silent | reported | undelivered => exact hs
  | asked | armed => exact hs.post
  | cancelled => exact hs.cancel _

theorem Acts.sound (h : Acts answer? a σ σ') (hs : σ.agenda.Sound) : σ'.agenda.Sound := by
  cases h with
  | silent | reported | undelivered => exact hs
  | asked _ hn => exact hs.post hn
  | armed hd => exact hs.post (Duration.le_of_add? hd)
  | cancelled => exact hs.cancel _

theorem ActsAll.now_eq (h : ActsAll answer? actions σ σ') : σ'.agenda.now = σ.agenda.now :=
  h.invariant (I := (·.agenda.now = σ.agenda.now)) (fun hn ha => ha.now_eq.trans hn) rfl

theorem ActsAll.keyed (h : ActsAll answer? actions σ σ') (hs : σ.agenda.Keyed) :
    σ'.agenda.Keyed :=
  h.invariant (I := (·.agenda.Keyed)) (fun hs ha => ha.keyed hs) hs

theorem ActsAll.sound (h : ActsAll answer? actions σ σ') (hs : σ.agenda.Sound) :
    σ'.agenda.Sound :=
  h.invariant (I := (·.agenda.Sound)) (fun hs ha => ha.sound hs) hs

/-- A scene that is sound, and in which the actions cancel none but timers. -/
structure Ready (σ : Scene) (actions : List Action) : Prop where
  sound : σ.agenda.Sound
  isTimer : ∀ timer, .cancel timer ∈ actions → σ.agenda.IsTimer timer

theorem Acts.isTimer (h : Acts answer? a σ σ') (hs : σ.agenda.Sound) {timer : TimerHandle}
    (ht : σ.agenda.IsTimer timer) : σ'.agenda.IsTimer timer := by
  cases h with
  | silent | reported | undelivered => exact ht
  | asked | armed => exact ht.post
  | cancelled => exact ht.cancel hs _

theorem Ready.tail (hr : σ.Ready (a :: actions)) (h : Acts answer? a σ σ') : σ'.Ready actions where
  sound := h.sound hr.sound
  isTimer timer ht := h.isTimer hr.sound (hr.isTimer timer (List.mem_cons_of_mem a ht))

/-! ## Lines to come -/

/-- All lines that are to come from an endpoint come by the time that it has promised. -/
def Promised (σ : Scene) (e : Endpoint) : Prop := ∀ x ∈ σ.coming e, x.1.due ≤ σ.busy e

/-- What is asked of an endpoint joins the lines that are to come from it. -/
private theorem coming_asked (hs : σ.agenda.Sound) (hp : σ.Promised e) {due : Duration}
    (hb : σ.busy e ≤ due) (trace : Trace) (answer : String) :
    (((σ.record trace).post due (.line e answer)).promise e due).coming e =
      σ.coming e ++ [(⟨due, σ.agenda.nextKey⟩, answer)] := by
  have hlane : (σ.agenda.post due (.line e answer)).lane (Input.line? e) = _ :=
    hs.lane_post fun x hx => Nat.le_trans (hp x hx) hb
  exact hlane.trans (by simp [Input.line?, coming])

theorem Acts.coming_eq (h : Acts answer? a σ σ') (hr : σ.Ready (a :: actions))
    (hp : σ.Promised e) :
    σ'.Promised e ∧ ∃ new, σ'.coming e = σ.coming e ++ new ∧
      new.map (·.2) = ((a.line? e).bind (answer? e)).toList := by
  have hsame : σ'.coming e = σ.coming e → σ'.busy e = σ.busy e →
      (a.line? e).bind (answer? e) = none →
      σ'.Promised e ∧ ∃ new, σ'.coming e = σ.coming e ++ new ∧
        new.map (·.2) = ((a.line? e).bind (answer? e)).toList := by
    intro hc hb hn
    rw [Promised, hc, hb, hn]
    exact ⟨hp, [], (List.append_nil _).symm, rfl⟩
  cases h with
  | @silent target line _ ha =>
    refine hsame rfl rfl ?_
    by_cases he : target = e
    · simp [Action.line?, ← he, ha]
    · simp [Action.line?, he]
  | @asked target line answer due _ ha hn hb =>
    by_cases he : target = e
    · subst he
      have hnew := coming_asked hr.sound hp hb (.sent target line) answer
      refine ⟨fun x hx => ?_, _, hnew, by simp [Action.line?, ha]⟩
      rw [hnew, List.mem_append, List.mem_singleton] at hx
      have hbusy : (((σ.record (.sent target line)).post due (.line target answer)).promise
        target due).busy target = due := if_pos rfl
      rw [hbusy]
      rcases hx with hx | rfl
      · exact Nat.le_trans (hp x hx) hb
      · exact Nat.le_refl _
    · exact hsame (hr.sound.lane_post_none (by simp [Input.line?, he])) (if_neg (Ne.symm he))
        (by simp [Action.line?, he])
  | armed => exact hsame (hr.sound.lane_post_none rfl) rfl rfl
  | cancelled =>
    exact hsame ((hr.isTimer _ List.mem_cons_self).lane_cancel hr.sound fun _ => rfl) rfl rfl
  | reported | undelivered => exact hsame rfl rfl rfl

/-- **The answers to the lines that an endpoint is sent join those that are to come from it.** -/
theorem ActsAll.coming_eq (h : ActsAll answer? actions σ σ') (hr : σ.Ready actions)
    (hp : σ.Promised e) :
    σ'.Promised e ∧ ∃ new, σ'.coming e = σ.coming e ++ new ∧
      new.map (·.2) = (actions.filterMap (·.line? e)).filterMap (answer? e) := by
  induction h with
  | nil => exact ⟨hp, [], (List.append_nil _).symm, rfl⟩
  | @cons a _ _ _ _ ha _ ih =>
    obtain ⟨hp', new, hc, hv⟩ := ha.coming_eq hr hp
    obtain ⟨hp'', new', hc', hv'⟩ := ih (hr.tail ha) hp'
    refine ⟨hp'', new ++ new', by rw [hc', hc, List.append_assoc], ?_⟩
    rw [List.map_append, hv, hv', List.filterMap_cons]
    cases a.line? e with
    | none => rfl
    | some line => cases hl : answer? e line <;> simp [hl]

/-- The lane of events that neither timers nor answers belong to stays as it is. -/
theorem ActsAll.lane_eq (h : ActsAll answer? actions σ σ') (hr : σ.Ready actions)
    {kind : Input → Option β} (ht : ∀ x, kind (.timer x) = none)
    (hk : ∀ e line answer, answer? e line = some answer → kind (.line e answer) = none) :
    σ'.agenda.lane kind = σ.agenda.lane kind := by
  induction h with
  | nil => rfl
  | cons ha _ ih =>
    refine (ih (hr.tail ha)).trans ?_
    cases ha with
    | silent | reported | undelivered => rfl
    | asked ha => exact hr.sound.lane_post_none (hk _ _ _ ha)
    | armed => exact hr.sound.lane_post_none (ht _)
    | cancelled => exact (hr.isTimer _ List.mem_cons_self).lane_cancel hr.sound ht

/-! ## Timers -/

/-- A timer that is armed to fire after all others joins them at the end. -/
theorem Acts.timers_arm {delay : Duration} {x : ExchangeId} (h : Acts answer? (.arm delay x) σ σ')
    (hs : σ.agenda.Sound)
    (hb : ∀ t ∈ σ.timers, t.1.due.nanos ≤ σ.agenda.now.nanos + delay.nanos) :
    ∃ due, due.nanos = σ.agenda.now.nanos + delay.nanos ∧
      σ'.timers = σ.timers ++ [(⟨due, σ.agenda.nextKey⟩, x)] := by
  cases h with
  | armed hd =>
    rw [Duration.add?_eq_some_iff] at hd
    refine ⟨_, hd, hs.lane_post fun t ht => ?_⟩
    rw [Duration.le_def, hd]
    exact hb t ht

theorem Acts.timers_eq (h : Acts answer? a σ σ') (hs : σ.agenda.Sound)
    (ha : ∀ delay x, a ≠ .arm delay x) :
    σ'.timers = σ.timers.filter fun t => a ≠ .cancel ⟨t.1.key⟩ := by
  cases h with
  | silent | reported | undelivered => exact (List.filter_eq_self.mpr (by simp)).symm
  | asked =>
    refine Eq.trans (hs.lane_post_none rfl) (List.filter_eq_self.mpr (by simp)).symm
  | armed => exact (ha _ _ rfl).elim
  | @cancelled timer =>
    refine (hs.lane_cancel timer.val).trans (List.filter_congr fun t _ => ?_)
    obtain ⟨key⟩ := timer
    simp [eq_comm]

/-- The timers left where none is armed. -/
theorem ActsAll.timers_eq (h : ActsAll answer? actions σ σ') (hs : σ.agenda.Sound)
    (ha : ∀ delay x, .arm delay x ∉ actions) :
    σ'.timers = σ.timers.filter fun t => .cancel ⟨t.1.key⟩ ∉ actions := by
  induction h with
  | nil => exact (List.filter_eq_self.mpr (by simp)).symm
  | @cons a _ _ _ _ hact _ ih =>
    rw [ih (hact.sound hs) fun delay x hm => ha delay x (List.mem_cons_of_mem a hm),
      hact.timers_eq hs fun delay x heq => ha delay x (heq ▸ List.mem_cons_self),
      List.filter_filter]
    refine List.filter_congr fun t _ => ?_
    simp [Bool.and_comm, eq_comm]

/-! ## Lines that are counted -/

/-- The lines that are counted as taken are those that the endpoints have been sent, and none is
counted as refused. -/
structure Tallied (σ : Scene) (d : Deliveries) : Prop where
  taken : ∀ e, d.taken e = (σ.sentTo e).length
  refused : d.sendFailures = 0

theorem Tallied.record {d : Deliveries} (h : σ.Tallied d) (ht : ∀ e, trace.sent? e = none) :
    (σ.record trace).Tallied d where
  taken e := by
    rw [sentTo_record, ht, Option.toList_none, List.append_nil]
    exact h.taken e
  refused := h.refused

end Scene

namespace Peers

variable {p p' : Peers} {d d' : Deliveries} {a : Action} {actions : List Action}

/-- Where nothing refuses lines, each line that is carried over is counted as taken. -/
theorem perform_tallied (hc : p.closed = []) (ha : a.isNote = false)
    (hu : ∀ line m, a ≠ .undeliverable line m)
    (h : perform host a d p = .done () (d', p')) (ht : p.scene.Tallied d) :
    p'.scene.Tallied d' := by
  have hsent (e : Endpoint) := (perform_done hc ha h).2.sentTo_eq (e := e)
  cases performs_of_done h with
  | taken =>
    refine ⟨fun e => ?_, ?_⟩
    · rw [Deliveries.taken_accept, ht.taken, hsent, List.length_append, Action.line?_send]
      split <;> rfl
    · rw [Deliveries.sendFailures_accept, ht.refused]
  | refused hsend => exact nomatch (send_done hc hsend).1
  | undeliverable => exact (hu _ _ rfl).elim
  | armed | cancelled | reported =>
    exact ⟨fun e => by rw [hsent, ht.taken]; simp [Action.line?], ht.refused⟩
  | noted => cases ha

theorem performAll_tallied (hc : p.closed = []) (hu : ∀ line m, .undeliverable line m ∉ actions)
    (h : performAll host actions d p = .done () (d', p')) (ht : p.scene.Tallied d) :
    p'.scene.Tallied d' := by
  induction actions generalizing d p with
  | nil =>
    cases h
    exact ht
  | cons a rest ih =>
    obtain ⟨d₁, p₁, ha, h⟩ := performAll_cons_done h
    have hrest : ∀ line m, .undeliverable line m ∉ rest := fun line m hm =>
      hu line m (List.mem_cons_of_mem a hm)
    cases hn : a.isNote with
    | true =>
      cases a with
      | note n =>
        cases ha
        exact ih (p := p.note (.relay n)) hc hrest h ht
      | _ => cases hn
    | false =>
      have hne : ∀ line m, a ≠ .undeliverable line m := fun line m heq =>
        hu line m (heq ▸ List.mem_cons_self)
      have hset := (perform_done hc hn ha).1
      exact ih (closed_congr hset ▸ hc) hrest h (perform_tallied hc hn hne ha ht)

end Peers

end ModemRelay.Simulation
