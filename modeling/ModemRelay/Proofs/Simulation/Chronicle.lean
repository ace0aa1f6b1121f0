import Mathlib.Data.List.Nodup
import ModemRelay.Proofs.Scenario.Evaluation
import ModemRelay.Proofs.Simulation.Lanes

/-!
# The events of an agenda over time

An agenda is used by scheduling events, cancelling them, taking the earliest off and moving the
clock, in any order (`Agenda.history`). Nothing stops such a history but a time that is out of range
(`Performed`). As the clock may be moved past events that are queued, nothing here rests on
`Agenda.Sound`. Events are taken off in the order of their places all the same, for no event is
scheduled before the clock, and the clock is never behind what has been taken off (`Paced`). Each
event that has been scheduled is queued, has been taken off or has been cancelled (`Accounted`).
-/

namespace ModemRelay.Simulation
open Relay

/-- The place of an event that is due. -/
def Due.slot (d : Due) : Slot := ⟨d.time, d.key⟩

namespace Agenda

/-- Something that is done to an agenda. -/
inductive Operation where
  | schedule (delay : Duration) (event : Input)
  | cancel (key : Nat)
  | popNext
  | advanceTo (time : Duration)

/-- What an operation gives back. -/
inductive Result where
  | scheduled (key : Nat)
  | cancelled (live : Bool)
  | popped (due : Option Due)
  | advanced

def Operation.perform : Operation → Agenda → Outcome Agenda Result
  | schedule delay event, a => (a.schedule delay event).map .scheduled
  | cancel key, a => .done (.cancelled (a.cancel key).1) (a.cancel key).2
  | popNext, a =>
    match a.popNext with
    | some (due, after) => .done (.popped (some due)) after
    | none => .done (.popped none) a
  | advanceTo time, a => .done .advanced (a.advanceTo time)

/-- A call of an agenda: the agenda before it, the operation, its result, and the agenda after. -/
structure Call where
  before : Agenda
  operation : Operation
  result : Result
  after : Agenda

/-- Performs operations in order, up to one that would set a time out of range. The result is the
calls and the agenda after them. -/
def history : List Operation → Agenda → List Call × Agenda
  | [], a => ([], a)
  | operation :: rest, a =>
    match operation.perform a with
    | .done result after =>
      (⟨a, operation, result, after⟩ :: (history rest after).1, (history rest after).2)
    | .overflow after => ([], after)

/-! ## What can be seen of the calls -/

/-- The event that has been scheduled, under the key that it was given. -/
def Call.scheduled? (c : Call) : Option Due :=
  match c.operation, c.result with
  | .schedule delay event, .scheduled key => (c.before.now.add? delay).map (⟨key, ·, event⟩)
  | _, _ => none

/-- The event that has been taken off. -/
def Call.popped? (c : Call) : Option Due :=
  match c.result with
  | .popped due => due
  | _ => none

/-- The key whose event has been cancelled. -/
def Call.cancelled? (c : Call) : Option Nat :=
  match c.operation, c.result with
  | .cancel key, .cancelled true => some key
  | _, _ => none

def scheduled (calls : List Call) : List Due := calls.filterMap Call.scheduled?

def popped (calls : List Call) : List Due := calls.filterMap Call.popped?

def cancelled (calls : List Call) : List Nat := calls.filterMap Call.cancelled?

/-- The queued events, earliest first. -/
def dues (a : Agenda) : List Due := (a.lane some).map fun x => ⟨x.1.key, x.1.due, x.2⟩

/-- What has become of a key: the events that are queued under it, those that have been taken off
under it, and how often an event has been cancelled under it. -/
def fate (calls : List Call) (a : Agenda) (key : Nat) : List Due × List Due × Nat :=
  (a.dues.filter (·.key = key), (popped calls).filter (·.key = key), (cancelled calls).count key)

/-- What can be relied on at any moment, about the calls up to then and the agenda they lead to. -/
structure Orderly (calls : List Call) (a : Agenda) : Prop where
  /-- The clock never goes back. -/
  clock : (calls.map (·.before.now) ++ [a.now]).Pairwise (· ≤ ·)
  /-- The event that is taken off is the first of those that are queued, -/
  first : ∀ c ∈ calls, ∀ d, c.result = .popped (some d) →
    c.before.queue[d.slot]? = some d.event ∧ ∀ slot ∈ c.before.queue, slot ≠ d.slot → d.slot < slot
  /-- and none is taken off only where none is queued. -/
  idle : ∀ c ∈ calls, c.result = .popped none → c.before.queue = ∅
  /-- Events are taken off in the order of their places. -/
  ordered : (popped calls).Pairwise (·.slot < ·.slot)
  /-- No key is given to two events. -/
  once : ((scheduled calls).map (·.key)).Nodup
  /-- The event of a key is queued, or has been taken off once, just as it was scheduled, or has
  been cancelled once. -/
  fates : ∀ d ∈ scheduled calls,
    fate calls a d.key ∈ [([d], [], 0), ([], [d], 0), ([], [], 1)]
  /-- Nothing has become of a key that has not been given. -/
  unknown : ∀ key ∉ (scheduled calls).map (·.key), fate calls a key = ([], [], 0)
  /-- What is cancelled is what is queued. -/
  live : ∀ c ∈ calls, ∀ key found, c.operation = .cancel key → c.result = .cancelled found →
    (found = true ↔ ∃ slot ∈ c.before.queue, slot.key = key)

/-- All the operations are performed, or all up to one that would schedule an event at a time out of
range. -/
def Performed (operations : List Operation) (calls : List Call) (a : Agenda) : Prop :=
  operations = calls.map (·.operation) ∨
    ∃ delay event rest, operations = calls.map (·.operation) ++ .schedule delay event :: rest ∧
      a.now.add? delay = none

theorem filterMap_concat (f : Call → Option β) (calls : List Call) (c : Call) :
    (calls ++ [c]).filterMap f = calls.filterMap f ++ (f c).toList := by
  rw [List.filterMap_append, List.filterMap_cons]
  cases f c <;> rfl

/-! ## Single calls -/

/-- What a call can be. -/
inductive Call.Made : Call → Prop
  | scheduled (h : a.now.add? delay = some due) :
    Made ⟨a, .schedule delay event, .scheduled a.nextKey, a.post due event⟩
  | cancelled : Made ⟨a, .cancel key, .cancelled (a.cancel key).1, (a.cancel key).2⟩
  | popped (h : a.popNext = some (d, a')) : Made ⟨a, .popNext, .popped (some d), a'⟩
  | idle (h : a.popNext = none) : Made ⟨a, .popNext, .popped none, a⟩
  | advanced : Made ⟨a, .advanceTo time, .advanced, a.advanceTo time⟩

variable {a after : Agenda} {operation : Operation} {result : Result} {calls : List Call}
  {c : Call} {d : Due} {due : Duration} {event : Input} {key : Nat}

theorem made_of_perform (h : operation.perform a = .done result after) :
    Call.Made ⟨a, operation, result, after⟩ := by
  cases operation with
  | schedule delay event =>
    obtain ⟨key, hkey, rfl⟩ := Outcome.map_eq_done.mp h
    obtain ⟨due, hdue, rfl, rfl⟩ := schedule_eq_done_iff.mp hkey
    exact .scheduled hdue
  | cancel key =>
    cases h
    exact .cancelled
  | popNext =>
    cases hpop : a.popNext with
    | none =>
      simp only [Operation.perform, hpop] at h
      cases h
      exact .idle hpop
    | some first =>
      simp only [Operation.perform, hpop] at h
      cases h
      exact .popped hpop
  | advanceTo time =>
    cases h
    exact .advanced

/-- Nothing stops but an event that is scheduled at a time out of range. -/
theorem perform_overflow (h : operation.perform a = .overflow after) :
    ∃ delay event, operation = .schedule delay event ∧ a.now.add? delay = none ∧
      after = a.takeKey := by
  cases operation with
  | schedule delay event =>
    obtain ⟨rfl, hlate⟩ := schedule_eq_overflow (Outcome.map_eq_overflow.mp h)
    exact ⟨delay, event, rfl, hlate, rfl⟩
  | cancel | advanceTo => cases h
  | popNext => cases hpop : a.popNext <;> simp [Operation.perform, hpop] at h

theorem performed_history (operations : List Operation) (a : Agenda) :
    Performed operations (history operations a).1 (history operations a).2 := by
  induction operations generalizing a with
  | nil => exact .inl rfl
  | cons operation rest ih =>
    rw [history]
    cases hop : operation.perform a with
    | done result after =>
      rcases ih after with hall | ⟨delay, event, later, hrest, hlate⟩
      · exact .inl (congrArg (operation :: ·) hall)
      · exact .inr ⟨delay, event, later, congrArg (operation :: ·) hrest, hlate⟩
    | overflow after =>
      obtain ⟨delay, event, rfl, hlate, rfl⟩ := perform_overflow hop
      exact .inr ⟨delay, event, rest, rfl, hlate⟩

/-- **What each call keeps holds after all of them.** The call that they stop at uses up a key. -/
theorem history_invariant {I : List Call → Agenda → Prop}
    (hcall : ∀ {calls c}, I calls c.before → c.Made → I (calls ++ [c]) c.after)
    (htaken : ∀ {calls a}, I calls a → I calls a.takeKey)
    (h : I calls a) (operations : List Operation) :
    I (calls ++ (history operations a).1) (history operations a).2 := by
  induction operations generalizing calls a with
  | nil =>
    rw [history, List.append_nil]
    exact h
  | cons operation rest ih =>
    rw [history]
    cases hop : operation.perform a with
    | done result after =>
      have hlater := ih (hcall h (made_of_perform hop))
      rwa [List.append_assoc] at hlater
    | overflow after =>
      obtain ⟨-, -, -, -, rfl⟩ := perform_overflow hop
      rw [List.append_nil]
      exact htaken h

/-- The clock never goes back. -/
theorem Call.Made.now_le (hc : c.Made) : c.before.now ≤ c.after.now := by
  cases hc with
  | scheduled | idle => exact Nat.le_refl _
  | cancelled => exact Nat.le_of_eq (congrArg (·.nanos) (now_cancel ..).symm)
  | popped hpop =>
    rw [popNext_snd hpop]
    exact Duration.le_max_left ..
  | advanced => exact Duration.le_max_left ..

theorem Keyed.made (h : c.before.Keyed) (hc : c.Made) : c.after.Keyed := by
  cases hc with
  | scheduled => exact h.post
  | cancelled => exact h.cancel _
  | popped hpop => exact h.popNext hpop
  | idle => exact h
  | advanced => exact h.advanceTo _

/-! ## The order of events -/

/-- The clock has not gone back, and all that is queued comes behind what has been taken off. -/
structure Paced (calls : List Call) (a : Agenda) : Prop where
  clock : (calls.map (·.before.now) ++ [a.now]).Pairwise (· ≤ ·)
  passed : ∀ d ∈ popped calls, d.time ≤ a.now
  given : ∀ d ∈ popped calls, d.key < a.nextKey
  behind : ∀ d ∈ popped calls, ∀ slot ∈ a.queue, d.slot < slot
  ordered : (popped calls).Pairwise (·.slot < ·.slot)

namespace Paced

theorem clock_append (h : Paced calls c.before) (hn : c.before.now ≤ c.after.now) :
    ((calls ++ [c]).map (·.before.now) ++ [c.after.now]).Pairwise (· ≤ ·) := by
  rw [List.map_append, List.map_singleton, List.pairwise_append]
  refine ⟨h.clock, List.pairwise_singleton .., ?_⟩
  intro time htime last hlast
  rw [List.mem_singleton.mp hlast]
  rw [List.mem_append, List.mem_singleton] at htime
  rcases htime with htime | rfl
  · have hbefore := (List.pairwise_append.mp h.clock).2.2 time htime _ (List.mem_singleton_self _)
    exact Nat.le_trans hbefore hn
  · exact hn

/-- A call that takes nothing off, and queues nothing before the clock. -/
theorem keep (h : Paced calls c.before) (hp : c.popped? = none)
    (hn : c.before.now ≤ c.after.now) (hk : c.before.nextKey ≤ c.after.nextKey)
    (hq : ∀ slot ∈ c.after.queue, slot ∈ c.before.queue ∨
      c.before.now ≤ slot.due ∧ c.before.nextKey ≤ slot.key) : Paced (calls ++ [c]) c.after := by
  have hsame : popped (calls ++ [c]) = popped calls := by
    rw [popped, filterMap_concat, hp, Option.toList_none, List.append_nil, popped]
  refine ⟨h.clock_append hn, ?_, ?_, ?_, ?_⟩
  · rw [hsame]
    exact fun d hd => Nat.le_trans (h.passed d hd) hn
  · rw [hsame]
    exact fun d hd => Nat.lt_of_lt_of_le (h.given d hd) hk
  · rw [hsame]
    intro d hd slot hs
    rcases hq slot hs with hs | ⟨hdue, hkey⟩
    · exact h.behind d hd slot hs
    · have hpassed := h.passed d hd
      have hgiven := h.given d hd
      rw [Duration.le_def] at hpassed hdue
      rw [Slot.lt_def, Due.slot]
      dsimp only
      omega
  · rw [hsame]
    exact h.ordered

theorem pop (h : Paced calls a) (hk : a.Keyed) (hpop : a.popNext = some (d, after)) :
    Paced (calls ++ [⟨a, .popNext, .popped (some d), after⟩]) after := by
  have hsame : popped (calls ++ [⟨a, .popNext, .popped (some d), after⟩]) = popped calls ++ [d] :=
    filterMap_concat ..
  have hclock : after.now = max a.now d.time := by rw [popNext_snd hpop]
  have hnow : a.now ≤ after.now := hclock ▸ Duration.le_max_left ..
  refine ⟨h.clock_append hnow, ?_, ?_, ?_, ?_⟩
  · rw [hsame, List.forall_mem_append, List.forall_mem_singleton]
    exact ⟨fun d hd => Nat.le_trans (h.passed d hd) hnow, hclock ▸ Duration.le_max_right ..⟩
  · rw [hsame, List.forall_mem_append, List.forall_mem_singleton, nextKey_of_popNext hpop]
    exact ⟨h.given, hk.key_lt _ (mem_of_popNext hpop)⟩
  · rw [hsame, List.forall_mem_append, List.forall_mem_singleton]
    refine ⟨fun d hd slot hs => h.behind d hd slot (mem_of_mem_popNext hpop hs), ?_⟩
    exact fun slot hs => lt_of_popNext hpop hs
  · rw [hsame, List.pairwise_append]
    refine ⟨h.ordered, List.pairwise_singleton .., ?_⟩
    intro d' hd' d'' hd''
    rw [List.mem_singleton.mp hd'']
    exact h.behind d' hd' _ (mem_of_popNext hpop)

/-- **Each call keeps the order of events**, also where the clock has been moved past some. -/
theorem made (h : Paced calls c.before) (hk : c.before.Keyed) (hc : c.Made) :
    Paced (calls ++ [c]) c.after := by
  have hnow := hc.now_le
  cases hc with
  | scheduled hdue =>
    refine h.keep rfl hnow (Nat.le_succ _) fun slot hs => ?_
    rcases mem_post.mp hs with rfl | hs
    · exact .inr ⟨Duration.le_of_add? hdue, Nat.le_refl _⟩
    · exact .inl hs
  | @cancelled a key =>
    refine h.keep rfl hnow ?_ fun slot hs => .inl (mem_of_mem_cancel hs)
    exact Nat.le_of_eq (nextKey_cancel a key).symm
  | popped hpop => exact h.pop hk hpop
  | idle | advanced => exact h.keep rfl hnow (Nat.le_refl _) fun _ hs => .inl hs

end Paced

/-! ## The fates of events -/

/-- The events that have been scheduled are those that are queued, those that have been taken off
and those that have been cancelled. -/
structure Accounted (calls : List Call) (a : Agenda) : Prop where
  given : ∀ d ∈ scheduled calls, d.key < a.nextKey
  once : ((scheduled calls).map (·.key)).Nodup
  queued : a.dues ⊆ scheduled calls
  taken : popped calls ⊆ scheduled calls
  perm : ((scheduled calls).map (·.key)).Perm
    (a.dues.map (·.key) ++ (popped calls).map (·.key) ++ cancelled calls)

theorem dues_popNext (h : a.popNext = some (d, after)) : a.dues = d :: after.dues := by
  rw [dues, lane_popNext h some]
  rfl

theorem Keyed.perm_dues_post (h : a.Keyed) :
    (a.post due event).dues.Perm (a.dues ++ [⟨a.nextKey, due, event⟩]) := by
  have hlane : ((a.post due event).lane some).Perm
      (a.lane some ++ [(⟨due, a.nextKey⟩, event)]) := h.perm_lane_post
  have hdues := hlane.map fun x => (⟨x.1.key, x.1.due, x.2⟩ : Due)
  rwa [List.map_append] at hdues

theorem Keyed.nodup_dues (h : a.Keyed) : (a.dues.map (·.key)).Nodup := by
  rw [dues, List.map_map]
  exact h.nodup_keys some

theorem Keyed.dues_cancel (h : a.Keyed) (key : Nat) :
    (a.cancel key).2.dues = a.dues.filter (·.key ≠ key) := by
  rw [dues, dues, h.lane_cancel, List.filter_map]
  rfl

theorem mem_dues : d ∈ a.dues ↔ a.queue[d.slot]? = some d.event := by
  obtain ⟨key, time, event⟩ := d
  simp only [dues, List.mem_map, Prod.exists, mem_lane, Due.slot, Due.mk.injEq]
  constructor
  · rintro ⟨⟨due, key⟩, event, ⟨event', hq, heq⟩, rfl, rfl, rfl⟩
    cases heq
    exact hq
  · exact fun hq => ⟨⟨time, key⟩, event, ⟨event, hq, rfl⟩, rfl, rfl, rfl⟩

theorem mem_map_key_dues : key ∈ a.dues.map (·.key) ↔ ∃ slot ∈ a.queue, slot.key = key := by
  constructor
  · intro h
    obtain ⟨d, hd, rfl⟩ := List.mem_map.mp h
    have hq := mem_dues.mp hd
    exact ⟨d.slot, mem_queue_iff.mpr ⟨d.event, hq⟩, rfl⟩
  · rintro ⟨slot, hs, rfl⟩
    obtain ⟨event, hq⟩ := mem_queue_iff.mp hs
    exact List.mem_map.mpr ⟨⟨slot.key, slot.due, event⟩, mem_dues.mpr hq, rfl⟩

/-- Cancelling a key takes it out of those that are queued. -/
theorem Keyed.perm_keys_cancel (h : a.Keyed) (hs : (a.cancel key).1 = true) :
    (a.dues.map (·.key)).Perm (key :: (a.cancel key).2.dues.map (·.key)) := by
  have hmem : key ∈ a.dues.map (·.key) := mem_map_key_dues.mpr ((h.cancel_fst key).mp hs)
  have hleft : (a.cancel key).2.dues.map (·.key) = (a.dues.map (·.key)).erase key := by
    rw [h.nodup_dues.erase_eq_filter, h.dues_cancel, List.filter_map]
    refine congrArg _ (List.filter_congr fun d _ => ?_)
    rw [Bool.eq_iff_iff]
    simp
  exact hleft ▸ List.perm_cons_erase hmem

/-- Where nothing is found, nothing is taken out. -/
theorem Keyed.dues_cancel_of_not (h : a.Keyed) (hs : ¬(a.cancel key).1 = true) :
    (a.cancel key).2.dues = a.dues := by
  rw [h.dues_cancel, List.filter_eq_self]
  intro d hd
  rw [h.cancel_fst, ← mem_map_key_dues] at hs
  exact decide_eq_true fun hkey => hs (hkey ▸ List.mem_map_of_mem hd)

theorem Call.scheduled?_eq {delay : Duration} (hdue : a.now.add? delay = some due) :
    Call.scheduled? ⟨a, .schedule delay event, .scheduled key, after⟩ = some ⟨key, due, event⟩ := by
  simp [Call.scheduled?, hdue]

/-- What is queued before a call and what it schedules is queued after it, or it has been taken off
or cancelled in it. -/
theorem Call.Made.balance (hc : c.Made) (hk : c.before.Keyed) :
    (c.before.dues.map (·.key) ++ c.scheduled?.toList.map (·.key)).Perm
      (c.after.dues.map (·.key) ++ c.popped?.toList.map (·.key) ++ c.cancelled?.toList) := by
  cases hc with
  | scheduled hdue =>
    rw [Call.scheduled?_eq hdue]
    simpa [Call.popped?, Call.cancelled?] using (hk.perm_dues_post.map (·.key)).symm
  | @cancelled a key =>
    cases hlive : (a.cancel key).1 with
    | true =>
      have hkeys := hk.perm_keys_cancel hlive
      simpa [Call.scheduled?, Call.popped?, Call.cancelled?] using
        hkeys.trans (List.perm_append_singleton ..).symm
    | false =>
      have hsame : (a.cancel key).2.dues = a.dues := hk.dues_cancel_of_not (by simp [hlive])
      simp [Call.scheduled?, Call.popped?, Call.cancelled?, hsame]
  | popped hpop =>
    rw [dues_popNext hpop]
    simpa [Call.scheduled?, Call.popped?, Call.cancelled?] using
      (List.perm_append_singleton ..).symm
  | idle | advanced => simp [Call.scheduled?, Call.popped?, Call.cancelled?, dues, advanceTo, lane]

theorem Call.Made.scheduled?_key (hc : c.Made) (hd : c.scheduled? = some d) :
    d.key = c.before.nextKey ∧ c.after.nextKey = c.before.nextKey + 1 := by
  cases hc with
  | scheduled hdue =>
    obtain ⟨due, -, rfl⟩ := Option.map_eq_some_iff.mp hd
    exact ⟨rfl, rfl⟩
  | cancelled | popped | idle | advanced => cases hd

theorem Call.Made.nextKey_le (hc : c.Made) : c.before.nextKey ≤ c.after.nextKey := by
  cases hc with
  | scheduled => exact Nat.le_succ _
  | cancelled => exact Nat.le_of_eq (nextKey_cancel ..).symm
  | popped hpop => exact Nat.le_of_eq (nextKey_of_popNext hpop).symm
  | idle | advanced => exact Nat.le_refl _

/-- What is queued after a call was queued before it or has been scheduled in it. -/
theorem Call.Made.mem_dues (hc : c.Made) (hk : c.before.Keyed) (hd : d ∈ c.after.dues) :
    d ∈ c.before.dues ∨ c.scheduled? = some d := by
  cases hc with
  | scheduled hdue =>
    rw [hk.perm_dues_post.mem_iff, List.mem_append, List.mem_singleton] at hd
    refine hd.imp_right fun hnew => ?_
    rw [hnew]
    exact Call.scheduled?_eq hdue
  | cancelled =>
    rw [hk.dues_cancel] at hd
    exact .inl (List.mem_filter.mp hd).1
  | popped hpop =>
    rw [dues_popNext hpop]
    exact .inl (List.mem_cons_of_mem _ hd)
  | idle | advanced => exact .inl hd

theorem Call.Made.popped_mem (hc : c.Made) (hd : c.popped? = some d) : d ∈ c.before.dues := by
  cases hc with
  | popped hpop =>
    cases hd
    rw [dues_popNext hpop]
    exact List.mem_cons_self
  | scheduled | cancelled | idle | advanced => cases hd

namespace Accounted

/-- **Each call keeps account of the events.** -/
theorem made (h : Accounted calls c.before) (hk : c.before.Keyed) (hc : c.Made) :
    Accounted (calls ++ [c]) c.after := by
  have hscheduled : scheduled (calls ++ [c]) = scheduled calls ++ c.scheduled?.toList :=
    filterMap_concat ..
  have hpopped : popped (calls ++ [c]) = popped calls ++ c.popped?.toList := filterMap_concat ..
  have hcancelled : cancelled (calls ++ [c]) = cancelled calls ++ c.cancelled?.toList :=
    filterMap_concat ..
  have hkeys : ∀ d ∈ scheduled calls, d.key < c.after.nextKey := fun d hd =>
    Nat.lt_of_lt_of_le (h.given d hd) hc.nextKey_le
  refine ⟨?_, ?_, ?_, ?_, ?_⟩
  · intro d hd
    rw [hscheduled, List.mem_append, Option.mem_toList] at hd
    rcases hd with hd | hd
    · exact hkeys d hd
    · obtain ⟨hnew, hnext⟩ := hc.scheduled?_key hd
      omega
  · rw [hscheduled, List.map_append, List.nodup_append]
    refine ⟨h.once, by cases c.scheduled? <;> simp, ?_⟩
    intro k hold k' hnew
    obtain ⟨d, hd, rfl⟩ := List.mem_map.mp hold
    obtain ⟨d', hd', rfl⟩ := List.mem_map.mp hnew
    have hlt := h.given d hd
    have hnext := (hc.scheduled?_key (Option.mem_toList.mp hd')).1
    omega
  · intro d hd
    rw [hscheduled, List.mem_append, Option.mem_toList]
    exact (hc.mem_dues hk hd).imp_left (h.queued ·)
  · intro d hd
    rw [hpopped, List.mem_append, Option.mem_toList] at hd
    rw [hscheduled]
    refine List.mem_append_left _ ?_
    exact hd.elim (h.taken ·) fun hnew => h.queued (hc.popped_mem hnew)
  · rw [hscheduled, hpopped, hcancelled, List.map_append, List.map_append, List.perm_iff_count]
    intro k
    have hbefore := h.perm.count_eq k
    have hcall := (hc.balance hk).count_eq k
    simp only [List.count_append] at hbefore hcall ⊢
    omega

/-- Of events with keys of their own, those of a key that is among them are one. -/
theorem filter_key {l : List Due} (hn : (l.map (·.key)).Nodup) (hd : d ∈ l) :
    l.filter (·.key = d.key) = [d] := by
  induction l with
  | nil => cases hd
  | cons first rest ih =>
    rw [List.map_cons, List.nodup_cons] at hn
    rcases List.mem_cons.mp hd with rfl | hd
    · have hnone : rest.filter (·.key = d.key) = [] := by
        refine List.filter_eq_nil_iff.mpr fun d' hd' heq => hn.1 ?_
        exact List.mem_map.mpr ⟨d', hd', of_decide_eq_true heq⟩
      rw [List.filter_cons_of_pos (by simp), hnone]
    · have hne : first.key ≠ d.key := fun heq => hn.1 (List.mem_map.mpr ⟨d, hd, heq.symm⟩)
      rw [List.filter_cons_of_neg (by simpa using hne), ih hn.2 hd]

theorem filter_key_eq_nil {l : List Due} (hk : key ∉ l.map (·.key)) :
    l.filter (·.key = key) = [] := by
  refine List.filter_eq_nil_iff.mpr fun d hd heq => hk ?_
  exact List.mem_map.mpr ⟨d, hd, of_decide_eq_true heq⟩

/-- Of the events that are scheduled, the one of a key is known by it. -/
theorem filter_scheduled (h : Accounted calls a) (hd : d ∈ scheduled calls) {l : List Due}
    (hl : l ⊆ scheduled calls) (hn : (l.map (·.key)).Nodup) (hk : d.key ∈ l.map (·.key)) :
    l.filter (·.key = d.key) = [d] := by
  obtain ⟨d', hd', heq⟩ := List.mem_map.mp hk
  cases List.inj_on_of_nodup_map h.once (hl hd') hd heq
  exact filter_key hn hd'

/-- **Each event has one fate.** -/
theorem fate_mem (h : Accounted calls a) (hd : d ∈ scheduled calls) :
    fate calls a d.key ∈ [([d], [], 0), ([], [d], 0), ([], [], 1)] := by
  have hn := h.perm.nodup_iff.mp h.once
  rw [List.nodup_append, List.nodup_append] at hn
  obtain ⟨⟨hqueued, htaken, hapart⟩, hcancelled, hothers⟩ := hn
  have hmem := h.perm.subset (List.mem_map_of_mem hd)
  rw [List.mem_append, List.mem_append] at hmem
  rcases hmem with (hq | ht) | hc
  · have ht : d.key ∉ (popped calls).map (·.key) := fun ht => hapart _ hq _ ht rfl
    have hc : d.key ∉ cancelled calls := fun hc => hothers _ (List.mem_append_left _ hq) _ hc rfl
    rw [fate, h.filter_scheduled hd h.queued hqueued hq, filter_key_eq_nil ht,
      List.count_eq_zero_of_not_mem hc]
    exact List.mem_cons_self
  · have hq : d.key ∉ a.dues.map (·.key) := fun hq => hapart _ hq _ ht rfl
    have hc : d.key ∉ cancelled calls := fun hc => hothers _ (List.mem_append_right _ ht) _ hc rfl
    rw [fate, filter_key_eq_nil hq, h.filter_scheduled hd h.taken htaken ht,
      List.count_eq_zero_of_not_mem hc]
    exact List.mem_cons_of_mem _ List.mem_cons_self
  · have hq : d.key ∉ a.dues.map (·.key) := fun hq =>
      hothers _ (List.mem_append_left _ hq) _ hc rfl
    have ht : d.key ∉ (popped calls).map (·.key) := fun ht =>
      hothers _ (List.mem_append_right _ ht) _ hc rfl
    rw [fate, filter_key_eq_nil hq, filter_key_eq_nil ht, List.count_eq_one_of_mem hcancelled hc]
    exact List.mem_cons_of_mem _ (List.mem_cons_of_mem _ List.mem_cons_self)

theorem fate_eq_nil (h : Accounted calls a) (hk : key ∉ (scheduled calls).map (·.key)) :
    fate calls a key = ([], [], 0) := by
  rw [h.perm.mem_iff, List.mem_append, List.mem_append, not_or, not_or] at hk
  rw [fate, filter_key_eq_nil hk.1.1, filter_key_eq_nil hk.1.2,
    List.count_eq_zero_of_not_mem hk.2]

end Accounted

/-! ## Histories -/

/-- All that each call keeps. -/
structure Recorded (calls : List Call) (a : Agenda) : Prop where
  keyed : a.Keyed
  each : ∀ c ∈ calls, c.before.Keyed ∧ c.Made
  paced : Paced calls a
  accounted : Accounted calls a

theorem Recorded.made (h : Recorded calls c.before) (hc : c.Made) :
    Recorded (calls ++ [c]) c.after where
  keyed := h.keyed.made hc
  each := by
    rw [List.forall_mem_append, List.forall_mem_singleton]
    exact ⟨h.each, h.keyed, hc⟩
  paced := h.paced.made h.keyed hc
  accounted := h.accounted.made h.keyed hc

theorem Recorded.takeKey (h : Recorded calls a) : Recorded calls a.takeKey where
  keyed := h.keyed.takeKey
  each := h.each
  paced := { h.paced with given := fun d hd => Nat.lt_succ_of_lt (h.paced.given d hd) }
  accounted :=
    { h.accounted with given := fun d hd => Nat.lt_succ_of_lt (h.accounted.given d hd) }

theorem Recorded.new : Recorded [] {} where
  keyed := Sound.new.toKeyed
  each := List.forall_mem_nil _
  paced :=
    ⟨List.pairwise_singleton .., List.forall_mem_nil _, List.forall_mem_nil _,
      List.forall_mem_nil _, .nil⟩
  accounted := by
    have hdues : ({} : Agenda).dues = [] := by simp [dues, lane]
    refine ⟨List.forall_mem_nil _, .nil, ?_, List.nil_subset _, ?_⟩
    · rw [hdues]
      exact List.nil_subset _
    · rw [hdues]
      exact .nil

/-- **Whatever is done to an agenda**, its clock does not go back, its events are taken off in the
order of their places, and each of them has one fate. All that is asked for is done, as long as no
time is out of range. What holds at the end of every history holds at every moment, for the calls up
to then are a history of their own. -/
theorem orderly_history (operations : List Operation) :
    Performed operations (history operations {}).1 (history operations {}).2 ∧
      Orderly (history operations {}).1 (history operations {}).2 := by
  have h : Recorded ([] ++ (history operations {}).1) (history operations {}).2 :=
    history_invariant (I := Recorded) .made .takeKey .new operations
  rw [List.nil_append] at h
  refine ⟨performed_history operations {}, ?_⟩
  exact {
    clock := h.paced.clock
    first := by
      intro c hc d hd
      obtain ⟨-, hmade⟩ := h.each c hc
      cases hmade with
      | popped hpop =>
        cases hd
        obtain ⟨hq, hfirst⟩ := popNext_eq_some hpop
        exact ⟨hq, fun slot hs hne => Slot.lt_of_isLE (hfirst slot hs) hne.symm⟩
      | scheduled | cancelled | idle | advanced => cases hd
    idle := by
      intro c hc hnone
      obtain ⟨-, hmade⟩ := h.each c hc
      cases hmade with
      | idle hpop => exact popNext_eq_none_iff.mp hpop
      | scheduled | cancelled | popped | advanced => cases hnone
    ordered := h.paced.ordered
    once := h.accounted.once
    fates := fun d => h.accounted.fate_mem
    unknown := fun key => h.accounted.fate_eq_nil
    live := by
      intro c hc key found hop hfound
      obtain ⟨hk, hmade⟩ := h.each c hc
      cases hmade with
      | cancelled =>
        cases hop
        cases hfound
        exact hk.cancel_fst key
      | scheduled | popped | idle | advanced => cases hop }

/-- Performs an operation, with the earliest event found by `popFirst`, which can be evaluated. -/
def Operation.evaluate : Operation → Agenda → Outcome Agenda Result
  | popNext, a =>
    match a.popFirst with
    | some (due, after) => .done (.popped (some due)) after
    | none => .done (.popped none) a
  | operation, a => operation.perform a

/-- Performs operations, as `history` does. -/
def evaluate : List Operation → Agenda → List Call × Agenda
  | [], a => ([], a)
  | operation :: rest, a =>
    match operation.evaluate a with
    | .done result after =>
      (⟨a, operation, result, after⟩ :: (evaluate rest after).1, (evaluate rest after).2)
    | .overflow after => ([], after)

theorem evaluate_eq (operations : List Operation) (a : Agenda) :
    evaluate operations a = history operations a := by
  induction operations generalizing a with
  | nil => rfl
  | cons operation rest ih =>
    have hop : operation.evaluate a = operation.perform a := by
      cases operation with
      | popNext => rw [Operation.evaluate, Operation.perform, popFirst_eq]
      | schedule | cancel | advanceTo => rfl
    rw [evaluate, history, hop]
    simp only [ih]

/-- The clock is moved past two events, which are taken off late. Of two that are due at one time
the second is cancelled. -/
def overdue : List Operation :=
  [.schedule (.ofMillis 30) (.timer ⟨0⟩), .schedule (.ofMillis 10) (.line .modem "A"),
    .schedule (.ofMillis 10) (.line .model "A"), .schedule (.ofMillis 20) (.timer ⟨1⟩), .cancel 2,
    .advanceTo (.ofMillis 25), .cancel 2, .schedule (.ofMillis 0) (.setMode .wardModel), .popNext,
    .popNext, .popNext, .popNext, .popNext, .cancel 0]

theorem orderly_history_overdue :
    (popped (history overdue {}).1).map (fun d => (d.key, d.time.millis)) =
        [(1, 10), (3, 20), (4, 25), (0, 30)] ∧
      cancelled (history overdue {}).1 = [2] ∧
      (history overdue {}).1.map (·.before.now.millis) =
        [0, 0, 0, 0, 0, 0, 25, 25, 25, 25, 25, 25, 30, 30] ∧
      Performed overdue (history overdue {}).1 (history overdue {}).2 ∧
      Orderly (history overdue {}).1 (history overdue {}).2 := by
  have h := orderly_history overdue
  rw [← evaluate_eq] at h ⊢
  exact ⟨by decide +kernel, by decide +kernel, by decide +kernel, h⟩

end Agenda

end ModemRelay.Simulation
