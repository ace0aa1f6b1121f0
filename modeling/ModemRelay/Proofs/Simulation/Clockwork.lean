import ModemRelay.Proofs.Simulation.Operations
import ModemRelay.Proofs.Simulation.Sightings

/-!
# The timers of a session over time

What the transcript of a session says of its timers (`Scene.Clocked`): each is armed under a handle
of its own, each has fired or was cancelled or is still to fire, and it fires when the response
timeout is over. What a relay asks for keeps this (`Hears.clocked`), as it cancels none but timers
that are still to fire.
-/

namespace ModemRelay.Simulation
open Relay

/-- Whether an observation is of a timer. -/
def Trace.isTimed : Trace → Bool
  | armed .. | cancelled .. | fired .. => true
  | received .. | sent .. | failed _ | modeChanged .. => false

namespace Scene

variable {σ σ' : Scene} {timeout due time : Duration} {timer : TimerHandle} {x : ExchangeId}
  {trace : Trace} {event : Input} {d : Due} {agenda : Agenda} {e : Endpoint} {a : Action}
  {actions : List Action} {answer? : Endpoint → String → Option String}

/-- The timers that are still to fire. -/
def handles (σ : Scene) : List TimerHandle := (tagged σ.timers).map (·.1)

theorem mem_handles : timer ∈ σ.handles ↔ ∃ t ∈ σ.timers, t.1.key = timer.val := by
  simp only [handles, tagged, List.map_map, List.mem_map]
  constructor
  · rintro ⟨t, ht, rfl⟩
    exact ⟨t, ht, rfl⟩
  · rintro ⟨t, ht, hk⟩
    exact ⟨t, ht, congrArg TimerHandle.mk hk⟩

theorem nodup_handles (hs : σ.agenda.Sound) : σ.handles.Nodup := by
  have hk := hs.nodup_keys Input.timer?
  rw [List.Nodup, List.pairwise_map] at hk
  rw [handles, tagged, List.map_map, List.Nodup, List.pairwise_map]
  exact hk.imp fun hne heq => hne (congrArg TimerHandle.val heq)

/-- What is observed of timers that are given `timeout`. -/
structure Clocked (timeout : Duration) (σ : Scene) : Prop where
  agenda : σ.agenda.Sound
  given : ∀ o ∈ σ.seen Trace.armed?, o.2.1.val < σ.agenda.nextKey
  once : ((σ.seen Trace.armed?).map (·.2.1)).Nodup
  /-- The timers that have been armed have fired, were cancelled, or are still to fire. -/
  accounted : ((σ.seen Trace.armed?).map (·.2.1)).Perm
    ((σ.seen Trace.expired?).map (·.2.1) ++ (σ.seen Trace.cancelled?).map (·.2.1) ++ σ.handles)
  due : ∀ t ∈ σ.timers, ∃ time, (time, (⟨t.1.key⟩, t.2)) ∈ σ.seen Trace.armed? ∧
    t.1.due.nanos = time.nanos + timeout.nanos
  expired : ∀ o ∈ σ.seen Trace.expired?, ∃ time, (time, o.2) ∈ σ.seen Trace.armed? ∧
    o.1.nanos = time.nanos + timeout.nanos
  live : ∀ o ∈ σ.seen Trace.cancelled?, o.2.2 = true

namespace Clocked

/-- What is not about timers may change. -/
theorem congr (h : σ.Clocked timeout) (hs : σ'.agenda.Sound)
    (hk : σ.agenda.nextKey ≤ σ'.agenda.nextKey) (ht : σ'.timers = σ.timers)
    (harmed : σ'.seen Trace.armed? = σ.seen Trace.armed?)
    (hexpired : σ'.seen Trace.expired? = σ.seen Trace.expired?)
    (hcancelled : σ'.seen Trace.cancelled? = σ.seen Trace.cancelled?) : σ'.Clocked timeout where
  agenda := hs
  given o ho := Nat.lt_of_lt_of_le (h.given o (harmed ▸ ho)) hk
  once := harmed ▸ h.once
  accounted := by
    rw [handles, ht, harmed, hexpired, hcancelled]
    exact h.accounted
  due := by
    rw [ht, harmed]
    exact h.due
  expired := by
    rw [harmed, hexpired]
    exact h.expired
  live := hcancelled ▸ h.live

theorem record (h : σ.Clocked timeout) (ht : trace.isTimed = false) :
    (σ.record trace).Clocked timeout := by
  have hunseen : trace.armed? = none ∧ trace.expired? = none ∧ trace.cancelled? = none := by
    cases trace <;> first | exact ⟨rfl, rfl, rfl⟩ | cases ht
  exact h.congr h.agenda (Nat.le_refl _) rfl (seen_record_none hunseen.1)
    (seen_record_none hunseen.2.1) (seen_record_none hunseen.2.2)

theorem promise (h : σ.Clocked timeout) : (σ.promise e due).Clocked timeout :=
  h.congr h.agenda (Nat.le_refl _) rfl rfl rfl rfl

theorem post (h : σ.Clocked timeout) (hd : σ.agenda.now ≤ due) (he : event.timer? = none) :
    (σ.post due event).Clocked timeout :=
  h.congr (h.agenda.post hd) (Nat.le_succ _) (h.agenda.lane_post_none he) rfl rfl rfl

theorem wait (h : σ.Clocked timeout) (hl : ∀ slot ∈ σ.agenda.queue, time < slot.due) :
    (σ.wait time).Clocked timeout :=
  h.congr (h.agenda.advanceTo hl) (Nat.le_refl _) rfl rfl rfl rfl

theorem arm (h : σ.Clocked timeout) (hd : σ.agenda.now.add? timeout = some due) :
    ((σ.post due (.timer x)).record (.armed ⟨σ.agenda.nextKey⟩ x)).Clocked timeout := by
  let σ' := (σ.post due (.timer x)).record (.armed ⟨σ.agenda.nextKey⟩ x)
  have harmed : σ'.seen Trace.armed? =
      σ.seen Trace.armed? ++ [(σ.agenda.now, (⟨σ.agenda.nextKey⟩, x))] := seen_record
  have hexpired : σ'.seen Trace.expired? = σ.seen Trace.expired? := seen_record_none rfl
  have hcancelled : σ'.seen Trace.cancelled? = σ.seen Trace.cancelled? := seen_record_none rfl
  have htimers : σ'.timers.Perm (σ.timers ++ [(⟨due, σ.agenda.nextKey⟩, x)]) :=
    h.agenda.perm_lane_post
  have hhandles : σ'.handles.Perm (σ.handles ++ [⟨σ.agenda.nextKey⟩]) := by
    have := (htimers.map fun t => (TimerHandle.mk t.1.key, t.2)).map (·.1)
    simpa [handles, tagged] using this
  have hnow := Duration.le_of_add? hd
  rw [Duration.add?_eq_some_iff] at hd
  exact {
    agenda := h.agenda.post hnow
    given := by
      rw [harmed, List.forall_mem_append, List.forall_mem_singleton]
      exact ⟨fun o ho => Nat.lt_succ_of_lt (h.given o ho), Nat.lt_succ_self _⟩
    once := by
      rw [harmed, List.map_append, List.map_singleton]
      refine List.nodup_append.mpr ⟨h.once, List.nodup_singleton _, fun k hk k' hk' => ?_⟩
      obtain ⟨o, ho, rfl⟩ := List.mem_map.mp hk
      rw [List.mem_singleton.mp hk']
      exact fun heq => Nat.ne_of_lt (h.given o ho) (congrArg TimerHandle.val heq)
    accounted := by
      rw [harmed, hexpired, hcancelled, List.map_append, List.map_singleton]
      refine (h.accounted.append_right _).trans ?_
      rw [List.append_assoc]
      exact hhandles.symm.append_left _
    due := by
      rw [harmed]
      intro t ht
      rw [htimers.mem_iff, List.mem_append, List.mem_singleton] at ht
      rcases ht with ht | rfl
      · obtain ⟨time, hmem, hdue⟩ := h.due t ht
        exact ⟨time, List.mem_append_left _ hmem, hdue⟩
      · exact ⟨σ.agenda.now, List.mem_append_right _ (List.mem_singleton_self _), hd⟩
    expired := by
      rw [harmed, hexpired]
      intro o ho
      obtain ⟨time, hmem, htime⟩ := h.expired o ho
      exact ⟨time, List.mem_append_left _ hmem, htime⟩
    live := by
      rw [hcancelled]
      exact h.live }

theorem disarm (h : σ.Clocked timeout) (hm : timer ∈ σ.handles) :
    (σ.disarm timer).Clocked timeout := by
  obtain ⟨⟨slot, x⟩, ht, hkey⟩ := mem_handles.mp hm
  have hlive : (σ.agenda.cancel timer.val).1 = true :=
    (h.agenda.cancel_fst _).mpr ⟨slot, Agenda.mem_queue_of_mem_lane ht, hkey⟩
  have harmed : (σ.disarm timer).seen Trace.armed? = σ.seen Trace.armed? := seen_record_none rfl
  have hexpired : (σ.disarm timer).seen Trace.expired? = σ.seen Trace.expired? :=
    seen_record_none rfl
  have hcancelled : (σ.disarm timer).seen Trace.cancelled? =
      σ.seen Trace.cancelled? ++ [((σ.agenda.cancel timer.val).2.now, (timer, true))] := by
    rw [← hlive]
    exact seen_record
  have htimers : (σ.disarm timer).timers = σ.timers.filter (·.1.key ≠ timer.val) :=
    h.agenda.lane_cancel timer.val
  have hhandles : σ.handles.Perm (timer :: (σ.disarm timer).handles) := by
    have hleft : (σ.disarm timer).handles = σ.handles.erase timer := by
      rw [(nodup_handles h.agenda).erase_eq_filter, handles, htimers, handles, tagged, tagged,
        List.map_map, List.map_map, List.filter_map]
      refine congrArg _ (List.filter_congr fun t _ => ?_)
      obtain ⟨key⟩ := timer
      rw [Bool.eq_iff_iff]
      simp
    exact hleft ▸ List.perm_cons_erase hm
  exact {
    agenda := h.agenda.cancel _
    given := by
      rw [harmed]
      exact fun o ho => Nat.lt_of_lt_of_eq (h.given o ho) (Agenda.nextKey_cancel ..).symm
    once := by
      rw [harmed]
      exact h.once
    accounted := by
      rw [harmed, hexpired, hcancelled]
      refine h.accounted.trans ((hhandles.append_left _).trans (.of_eq ?_))
      simp
    due := by
      rw [harmed, htimers]
      exact fun t ht => h.due t (List.mem_filter.mp ht).1
    expired := by
      rw [harmed, hexpired]
      exact h.expired
    live := by
      rw [hcancelled, List.forall_mem_append, List.forall_mem_singleton]
      exact ⟨h.live, rfl⟩ }

theorem heard (h : σ.Clocked timeout) (hp : σ.agenda.popNext = some (d, agenda)) :
    (heard { σ with agenda } d).Clocked timeout := by
  have hs := h.agenda.popNext hp
  have hk := Nat.le_of_eq (Agenda.nextKey_of_popNext hp).symm
  have hlane := Agenda.lane_popNext hp Input.timer?
  have hkept (ht : agenda.lane Input.timer? = σ.timers) : Clocked timeout { σ with agenda } :=
    h.congr hs hk ht rfl rfl rfl
  obtain ⟨key, time, event⟩ := d
  cases event with
  | line source line => exact (hkept hlane.symm).record rfl
  | setMode m => exact hkept hlane.symm
  | timer x =>
    let σ' := Scene.heard { σ with agenda } ⟨key, time, .timer x⟩
    have htimers : σ.timers = (⟨time, key⟩, x) :: σ'.timers := hlane
    have hhandles : σ.handles = ⟨key⟩ :: σ'.handles := by
      rw [handles, htimers]
      rfl
    have harmed : σ'.seen Trace.armed? = σ.seen Trace.armed? := seen_record_none rfl
    have htime : agenda.now = time := h.agenda.now_of_popNext hp
    have hexpired : σ'.seen Trace.expired? = σ.seen Trace.expired? ++ [(time, (⟨key⟩, x))] := by
      rw [← htime]
      exact seen_record
    have hcancelled : σ'.seen Trace.cancelled? = σ.seen Trace.cancelled? := seen_record_none rfl
    have hfirst := h.due (⟨time, key⟩, x) (htimers ▸ List.mem_cons_self)
    exact {
      agenda := hs
      given := by
        rw [harmed]
        exact fun o ho => Nat.lt_of_lt_of_le (h.given o ho) hk
      once := by
        rw [harmed]
        exact h.once
      accounted := by
        rw [harmed, hexpired, hcancelled]
        refine h.accounted.trans ?_
        rw [hhandles, List.map_append, List.append_assoc, List.append_assoc, List.append_assoc]
        exact List.perm_middle.append_left _
      due := by
        rw [harmed]
        exact fun t ht => h.due t (htimers ▸ List.mem_cons_of_mem _ ht)
      expired := by
        rw [harmed, hexpired, List.forall_mem_append, List.forall_mem_singleton]
        exact ⟨h.expired, hfirst⟩
      live := by
        rw [hcancelled]
        exact h.live }

theorem handled (h : σ.Clocked timeout) {input : Input} {mode : Mode} :
    (σ.handled input mode).Clocked timeout :=
  handled_invariant (I := (·.Clocked timeout)) h fun _ => h.record rfl

end Clocked

/-! ## Carrying out actions -/

theorem Acts.clocked (h : Acts answer? a σ σ') (hc : σ.Clocked timeout)
    (harm : ∀ delay x, a = .arm delay x → delay = timeout)
    (hcancel : ∀ timer, a = .cancel timer → timer ∈ σ.handles) : σ'.Clocked timeout := by
  cases h with
  | silent | reported => exact hc.record rfl
  | asked _ hn => exact ((hc.record rfl).post hn rfl).promise
  | armed hd =>
    cases harm _ _ rfl
    exact hc.arm hd
  | cancelled => exact hc.disarm (hcancel _ rfl)
  | undelivered => exact hc

/-- A timer stays until it is cancelled. -/
theorem Acts.mem_handles (h : Acts answer? a σ σ') (hs : σ.agenda.Sound)
    (ht : timer ∈ σ.handles) (hne : a ≠ .cancel timer) : timer ∈ σ'.handles := by
  obtain ⟨t, ht, hk⟩ := Scene.mem_handles.mp ht
  refine Scene.mem_handles.mpr ⟨t, ?_, hk⟩
  cases h with
  | silent | reported | undelivered => exact ht
  | @asked target line answer due =>
    change t ∈ (σ.agenda.post due (.line target answer)).lane Input.timer?
    rw [hs.lane_post_none rfl]
    exact ht
  | armed => exact hs.perm_lane_post.mem_iff.mpr (List.mem_append_left _ ht)
  | @cancelled other =>
    have hkey : t.1.key ≠ other.val := fun heq =>
      hne (congrArg (fun n => Action.cancel ⟨n⟩) (heq.symm.trans hk))
    change t ∈ (σ.agenda.cancel other.val).2.lane Input.timer?
    rw [hs.lane_cancel]
    exact List.mem_filter.mpr ⟨ht, decide_eq_true hkey⟩

/-- **Actions keep the timers on time**, where they cancel timers that are still to fire, each
once. -/
theorem ActsAll.clocked (h : ActsAll answer? actions σ σ') (hc : σ.Clocked timeout)
    (harm : ∀ delay x, .arm delay x ∈ actions → delay = timeout)
    (hcancel : ∀ timer, .cancel timer ∈ actions → timer ∈ σ.handles)
    (hn : (actions.filterMap Action.cancelled?).Nodup) : σ'.Clocked timeout := by
  induction h with
  | nil => exact hc
  | @cons a _ _ as _ ha _ ih =>
    rw [filterMap_cons_toList, List.nodup_append] at hn
    refine ih (ha.clocked hc (fun delay x heq => ?_) fun timer heq => ?_) (fun delay x hm => ?_)
      (fun timer hm => ?_) hn.2.1
    · exact harm delay x (heq ▸ List.mem_cons_self)
    · exact hcancel timer (heq ▸ List.mem_cons_self)
    · exact harm delay x (List.mem_cons_of_mem _ hm)
    · refine ha.mem_handles hc.agenda (hcancel timer (List.mem_cons_of_mem _ hm)) ?_
      rintro rfl
      have hagain : timer ∈ as.filterMap Action.cancelled? := Action.mem_cancelled.mpr hm
      exact hn.2.2 timer (by simp [Action.cancelled?]) timer hagain rfl

end Scene

/-! ## Sessions -/

namespace Hears

variable {r r' : Relay} {σ σ' : Scene} {input : Input} {timer : TimerHandle}
  {actions : List Action} {answer? : Endpoint → String → Option String}

/-- **What a relay asks for keeps the timers on time.** -/
theorem clocked (h : Hears r σ input timer) (hm : Move r ⟨σ.agenda.nextKey⟩ input r' actions)
    (hacts : Scene.ActsAll answer? actions σ σ')
    (hc : σ.Clocked r.config.responseTimeout) : σ'.Clocked r'.config.responseTimeout := by
  rw [hm.config_eq]
  refine hacts.clocked hc (fun delay x harm => ?_) (fun timer hcancel => ?_)
    ((hm.retimed h.relay).nodup_cancelled h.nodup)
  · obtain ⟨line, -, rfl, -⟩ := hm.of_arm harm
    simp only [List.mem_singleton, Action.arm.injEq] at harm
    exact harm.1
  · obtain ⟨hnone, x, hx⟩ := hm.mem_timers h.relay hcancel
    have htimers := h.timers
    rw [hnone] at htimers
    exact List.mem_map.mpr ⟨_, htimers ▸ hx, rfl⟩

end Hears

end ModemRelay.Simulation
