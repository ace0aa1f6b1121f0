import ModemRelay.Proofs.Relay.Balance
import ModemRelay.Proofs.Simulation.Chronicle
import ModemRelay.Proofs.Simulation.Punctuality

/-!
# The books of a session

A session is written down twice: its peers and the session itself keep the transcript, and the relay
keeps its counters. The two agree (`Session.Reconciled`) in every session that operations lead to
(`Session.reconciled_performAll`). The events are accounted for as well: each one that has been
scheduled has been handled, was cancelled, or is queued (`Scene.Registered`).
-/

namespace ModemRelay.Simulation
open Relay

/-- Whether an event has been cancelled that was queued. -/
def Trace.isCancellation : Trace → Bool
  | cancelled _ live => live
  | _ => false

/-! ## The number of queued events -/

namespace Agenda

variable {a a' : Agenda} {due : Duration} {event : Input} {d : Due}

theorem length_dues (a : Agenda) : a.dues.length = a.size := by
  simp [dues, lane, size]

theorem Keyed.size_post (h : a.Keyed) : (a.post due event).size = a.size + 1 := by
  rw [← length_dues, h.perm_dues_post.length_eq, ← length_dues]
  exact List.length_append

theorem size_popNext (h : a.popNext = some (d, a')) : a.size = a'.size + 1 := by
  rw [← length_dues, dues_popNext h, ← length_dues]
  rfl

theorem Keyed.size_cancel (h : a.Keyed) (key : Nat) :
    (a.cancel key).2.size + (a.cancel key).1.toNat = a.size := by
  rw [← length_dues, ← length_dues]
  cases hlive : (a.cancel key).1 with
  | true => simpa using (h.perm_keys_cancel hlive).length_eq.symm
  | false => rw [h.dues_cancel_of_not (by simp [hlive]), Bool.toNat_false, Nat.add_zero]

end Agenda

/-! ## The transcript over time -/

namespace Scene

variable {σ σ' : Scene} {a : Action} {actions : List Action} {trace : Trace} {due time : Duration}
  {event input : Input} {mode : Mode} {agenda : Agenda} {d : Due} {n : Nat}
  {answer? : Endpoint → String → Option String}

/-- The events that have been cancelled while they were queued. -/
def cancellations (σ : Scene) : Nat := σ.transcript.countP (·.trace.isCancellation)

/-- A scene in which `n` events have been handled. -/
structure Registered (σ : Scene) (n : Nat) : Prop where
  agenda : σ.agenda.Sound
  ordered : σ.transcript.Pairwise (·.time ≤ ·.time)
  past : ∀ o ∈ σ.transcript, o.time ≤ σ.agenda.now
  /-- Each event that has been scheduled has been handled, was cancelled or is queued. -/
  spent : σ.agenda.nextKey = n + σ.cancellations + σ.agenda.size

theorem cancellations_record :
    (σ.record trace).cancellations = σ.cancellations + trace.isCancellation.toNat := by
  rw [cancellations, record, List.countP_append, List.countP_singleton, cancellations]
  cases trace.isCancellation <;> rfl

namespace Registered

/-- What is written down now comes last. -/
theorem append (h : σ.Registered n) (hs : agenda.Sound) (hn : agenda.now = σ.agenda.now)
    (hk : agenda.nextKey = n + ({ σ with agenda }.record trace).cancellations + agenda.size) :
    ({ σ with agenda }.record trace).Registered n where
  agenda := hs
  ordered := by
    refine List.pairwise_append.mpr ⟨h.ordered, List.pairwise_singleton .., fun o ho o' ho' => ?_⟩
    rw [List.mem_singleton.mp ho', hn]
    exact h.past o ho
  past := by
    refine List.forall_mem_append.mpr ⟨fun o ho => ?_, ?_⟩
    · change o.time ≤ agenda.now
      rw [hn]
      exact h.past o ho
    · exact List.forall_mem_singleton.mpr (Nat.le_refl _)
  spent := hk

theorem record (h : σ.Registered n) (ht : trace.isCancellation = false) :
    (σ.record trace).Registered n := by
  refine h.append h.agenda rfl ?_
  rw [cancellations_record, ht]
  exact h.spent

theorem disarm (h : σ.Registered n) (timer : TimerHandle) : (σ.disarm timer).Registered n := by
  refine h.append (h.agenda.cancel _) (Agenda.now_cancel ..) ?_
  have hsize := h.agenda.size_cancel timer.val
  have hspent := h.spent
  rw [Agenda.nextKey_cancel, cancellations_record]
  change σ.agenda.nextKey = n + (σ.cancellations + (σ.agenda.cancel timer.val).1.toNat) +
    (σ.agenda.cancel timer.val).2.size
  omega

theorem post (h : σ.Registered n) (hd : σ.agenda.now ≤ due) : (σ.post due event).Registered n where
  agenda := h.agenda.post hd
  ordered := h.ordered
  past := h.past
  spent := by
    have hsize : (σ.agenda.post due event).size = σ.agenda.size + 1 := h.agenda.size_post
    have hspent := h.spent
    change σ.agenda.nextKey + 1 = n + σ.cancellations + (σ.agenda.post due event).size
    omega

theorem promise (h : σ.Registered n) {e : Endpoint} : (σ.promise e due).Registered n :=
  ⟨h.agenda, h.ordered, h.past, h.spent⟩

theorem wait (h : σ.Registered n) (hl : ∀ slot ∈ σ.agenda.queue, time < slot.due) :
    (σ.wait time).Registered n where
  agenda := h.agenda.advanceTo hl
  ordered := h.ordered
  past o ho := Nat.le_trans (h.past o ho) (Duration.le_max_left ..)
  spent := h.spent

theorem acts (h : σ.Registered n) (hact : Acts answer? a σ σ') : σ'.Registered n := by
  cases hact with
  | undelivered => exact h
  | silent | reported => exact h.record rfl
  | asked _ hn => exact ((h.record rfl).post hn).promise
  | armed hd => exact (h.post (Duration.le_of_add? hd)).record rfl
  | cancelled => exact h.disarm _

theorem actsAll (h : σ.Registered n) (hacts : ActsAll answer? actions σ σ') :
    σ'.Registered n :=
  hacts.invariant (I := (·.Registered n)) acts h

/-- The event that is taken off is handled. -/
theorem heard (h : σ.Registered n) (hp : σ.agenda.popNext = some (d, agenda)) :
    (Scene.heard { σ with agenda } d).Registered (n + 1) := by
  have hsize := Agenda.size_popNext hp
  have hspent := h.spent
  have hpopped : Registered { σ with agenda } (n + 1) := by
    refine ⟨h.agenda.popNext hp, h.ordered, fun o ho => ?_, ?_⟩
    · exact Nat.le_trans (h.past o ho) (h.agenda.now_le_of_popNext hp)
    · change agenda.nextKey = n + 1 + σ.cancellations + agenda.size
      rw [Agenda.nextKey_of_popNext hp]
      omega
  exact heard_invariant (I := (·.Registered (n + 1))) hpopped (fun _ _ => hpopped.record rfl)
    fun _ _ => hpopped.record rfl

theorem handled (h : σ.Registered n) : (σ.handled input mode).Registered n :=
  handled_invariant (I := (·.Registered n)) h fun _ => h.record rfl

theorem new (config : Session.Config) : (Session.new config).scene.Registered 0 :=
  ⟨.new, .nil, nofun, rfl⟩

end Registered

/-- The answers that differed and those that timed out are counted as they are reported. -/
structure Reported (σ : Scene) (t : Tally) : Prop where
  mismatched : t.mismatched = σ.failures.countP (!·.isTimeout)
  timedOut : t.timedOut = σ.failures.countP (·.isTimeout)

theorem Reported.acts {r r' : Relay} {timer : TimerHandle} (h : σ.Reported r.tally)
    (hm : Move r timer input r' actions) (hacts : ActsAll answer? actions σ σ') :
    σ'.Reported r'.tally := by
  obtain ⟨hmismatched, htimedOut⟩ := hm.balance_failures
  constructor
  · rw [hmismatched, h.mismatched, hacts.failures_eq, List.countP_append]
  · rw [htimedOut, h.timedOut, hacts.failures_eq, List.countP_append]

theorem Reported.congr {t : Tally} (h : σ.Reported t) (hf : σ'.failures = σ.failures) :
    σ'.Reported t := by
  constructor
  · rw [hf, h.mismatched]
  · rw [hf, h.timedOut]

end Scene

namespace Turn

variable {answer? : Endpoint → String → Option String} {r r' : Relay} {σ σ' : Scene} {d : Due}
  {n : Nat}

theorem registered (ht : Turn answer? r σ d r' σ') (h : σ.Registered n) :
    σ'.Registered (n + 1) := by
  cases ht with
  | intro hp _ hacts _ => exact ((h.heard hp).actsAll hacts).handled

theorem reported (ht : Turn answer? r σ d r' σ') (h : σ.Reported r.tally) :
    σ'.Reported r'.tally := by
  cases ht with
  | @intro agenda r₁ actions σ₁ hp hm hacts deliveries =>
    have hheard : (Scene.heard { σ with agenda } d).Reported r.tally :=
      h.congr Scene.failures_heard
    exact (hheard.acts hm hacts).congr Scene.failures_handled

end Turn

/-! ## Sessions -/

namespace Session

variable {s s' : Session} {input : Input}

/-- The books of a session as its operations keep them. -/
structure Reckoned (s : Session) : Prop where
  closed : s.peers.closed = []
  relay : s.relay.Sound
  registered : s.scene.Registered s.steps
  tallied : s.scene.Tallied s.relay.deliveries
  reported : s.scene.Reported s.relay.tally

namespace Reckoned

theorem new (config : Config) : (Session.new config).Reckoned where
  closed := rfl
  relay := .new ..
  registered := .new config
  tallied := ⟨fun e => by cases e <;> rfl, rfl⟩
  reported := ⟨rfl, rfl⟩

theorem feed (h : s.Reckoned) (hf : s.feed input = .done () s') : s'.Reckoned := by
  have hsteps := s.steps_feed input
  rw [hf] at hsteps
  obtain ⟨hset, r', actions, deliveries, hmove, hr, hacts⟩ := feed_done h.closed h.relay hf
  refine ⟨Peers.closed_congr hset ▸ h.closed, ?_, ?_,
    feed_tallied h.closed h.relay hf h.tallied, ?_⟩
  · rw [hr]
    exact (hmove.sound h.relay).deliver deliveries
  · exact hsteps ▸ h.registered.actsAll hacts
  · have hreported : s'.scene.Reported r'.tally := h.reported.acts hmove hacts
    rw [hr]
    exact hreported

theorem step (h : s.Reckoned) (hs : s.step = .done true s') : s'.Reckoned := by
  have hsteps := steps_step (size_ne_zero_of_step hs)
  rw [hs] at hsteps
  obtain ⟨hset, d, ht⟩ := step_done h.closed h.relay hs
  exact ⟨Peers.closed_congr hset ▸ h.closed, ht.sound h.relay, hsteps ▸ ht.registered h.registered,
    step_tallied h.closed h.relay hs h.tallied, ht.reported h.reported⟩

/-- **Every operation keeps the books.** -/
theorem preserved : Preserved Reckoned where
  steady h := ⟨h.closed, h.relay, h.registered.agenda.toKeyed⟩
  asks h hrun := by
    obtain ⟨s₁, hf, hrelay, hsteps, hset, hscene⟩ := setMode_done hrun
    have h₁ := h.feed hf
    refine ⟨Peers.closed_congr hset ▸ h₁.closed, hrelay ▸ h₁.relay, ?_, ?_, ?_⟩
    · rw [hscene, hsteps]
      exact h₁.registered.handled
    · rw [hscene, hrelay]
      exact h₁.tallied.handled
    · rw [hscene, hrelay]
      exact h₁.reported.congr Scene.failures_handled
  schedules h _ hrun := by
    obtain ⟨due, hdue, rfl⟩ := schedule_done hrun
    exact ⟨h.closed, h.relay, h.registered.post (Duration.le_of_add? hdue),
      ⟨h.tallied.taken, h.tallied.refused⟩, h.reported.congr rfl⟩
  steps := step
  settles {s s'} h hs := by
    cases hs with
    | done => exact h
    | ended =>
      refine ⟨(Peers.closed_congr s.settings_ended).trans h.closed, ?_, ?_, ?_, ?_⟩
      · rw [relay_ended]
        exact h.relay
      · rw [scene_ended, steps_ended]
        exact h.registered
      · rw [scene_ended, relay_ended]
        exact h.tallied
      · rw [scene_ended, relay_ended]
        exact h.reported
    | waited hd =>
      exact ⟨h.closed, h.relay, h.registered.wait (not_dueBy_iff.mp hd),
        ⟨h.tallied.taken, h.tallied.refused⟩, h.reported.congr rfl⟩

end Reckoned

/-- What can be relied on about what a session tells of itself: counters, transcript, failures and
clock agree. -/
structure Reconciled (s : Session) : Prop where
  sentToModemManager :
    s.relay.stats.deliveries.sentToModemManager = (s.sentTo .modemManager).length
  sentToModem : s.relay.stats.deliveries.sentToModem = (s.sentTo .modem).length
  postedToModel : s.relay.stats.deliveries.postedToModel = (s.sentTo .model).length
  sendFailures : s.relay.stats.deliveries.sendFailures = 0
  mismatched : s.relay.stats.tally.mismatched = s.failures.mismatches
  timedOut : s.relay.stats.tally.timedOut = s.failures.timeouts
  /-- The steps are the events that have been taken off: of all that have been scheduled, those that
  are neither queued nor have been cancelled while they were. -/
  steps : s.steps + s.transcript.toList.countP (·.trace.isCancellation) + s.agenda.size =
    s.agenda.nextKey
  /-- Nothing in the transcript is later than what comes after it, -/
  ordered : s.transcript.toList.Pairwise (·.time ≤ ·.time)
  /-- nor than the clock, -/
  past : ∀ o ∈ s.transcript.toList, o.time ≤ s.now
  /-- and nothing that is queued is overdue. -/
  future : ∀ slot ∈ s.agenda.queue, s.now ≤ slot.due

theorem Reckoned.reconciled (h : s.Reckoned) : s.Reconciled where
  sentToModemManager := by
    rw [sentTo_eq]
    exact h.tallied.taken .modemManager
  sentToModem := by
    rw [sentTo_eq]
    exact h.tallied.taken .modem
  postedToModel := by
    rw [sentTo_eq]
    exact h.tallied.taken .model
  sendFailures := h.tallied.refused
  mismatched := by
    rw [FailureLog.mismatches, toList_failures]
    exact h.reported.mismatched
  timedOut := by
    rw [FailureLog.timeouts, toList_failures]
    exact h.reported.timedOut
  steps := h.registered.spent.symm
  ordered := h.registered.ordered
  past := h.registered.past
  future := h.registered.agenda.now_le

/-- **Counters, transcript, failures and clock agree in every session**, with and without a modem,
whatever operations are performed. The operations up to any moment are a session of their own, so
this holds between all of them. -/
theorem reconciled_performAll (config : Config) (operations : List Operation)
    (hrun : performAll operations (.new config) = .done () s) : s.Reconciled :=
  (performAll_preserved Reckoned.preserved (.new config) hrun).reconciled

/-- Of 15 events 10 have been handled, 3 were cancelled and 2 are queued. -/
theorem reconciled_performAll_visit :
    ∃ s, performAll visit (.new taciturn) = .done () s ∧
      s.relay.stats.deliveries = ⟨4, 3, 3, 0⟩ ∧ s.failures.mismatches = 1 ∧
      s.failures.timeouts = 3 ∧ s.steps = 10 ∧ s.agenda.nextKey = 15 ∧ s.Reconciled :=
  ⟨_, performAll_visit, by decide +kernel, by decide +kernel, by decide +kernel,
    by decide +kernel, by decide +kernel, reconciled_performAll taciturn visit performAll_visit⟩

end Session

end ModemRelay.Simulation
