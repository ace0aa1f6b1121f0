import Mathlib.Data.List.Nodup
import ModemRelay.Proofs.Relay.Move

/-!
# What a step does to the timers

Timers come and go with the exchanges that they guard. Those of the pending exchanges change in four
ways (`Retimed`): the model's answer adds one at the end, the modem's answer calls off the oldest, a
change of mode calls off all, and a timer that fires takes out its own, wherever it stands.
`Move.retimed` says that each step changes them so, and arms and cancels no others. From it follows
which timers are left after a step that arms none (`Move.timers_eq`).
-/

namespace ModemRelay

theorem PendingQueue.map_fst_timers (q : PendingQueue) :
    q.timers.map (·.1) = q.toList.filterMap (·.timer) := by
  rw [timers, List.map_filterMap]
  refine List.filterMap_congr fun e _ => ?_
  cases e.timer <;> rfl

namespace Relay

/-- The exchange of a timer that fires. -/
def Input.timer? : Input → Option ExchangeId
  | .timer x => some x
  | _ => none

@[simp] theorem Input.timer?_line (source : Endpoint) (l : String) :
    (Input.line source l).timer? = none := rfl

@[simp] theorem Input.timer?_timer (x : ExchangeId) : (Input.timer x).timer? = some x := rfl

@[simp] theorem Input.timer?_setMode (m : Mode) : (Input.setMode m).timer? = none := rfl

/-- The exchange that a timer is armed for. -/
def Action.armed? : Action → Option ExchangeId
  | .arm _ x => some x
  | _ => none

/-- The timer that is cancelled. -/
def Action.cancelled? : Action → Option TimerHandle
  | .cancel timer => some timer
  | _ => none

/-- A step on the timers of the pending exchanges: its input, the timers before and after it, the
exchanges that it arms one for and the timers that it cancels. A new timer gets the handle `handle`,
its exchange the number `next`. -/
inductive Retimed (handle : TimerHandle) (next : ExchangeId) : Input →
    (before after : List (TimerHandle × ExchangeId)) → List ExchangeId → List TimerHandle → Prop
  | kept (hx : ∀ x ∈ input.timer?, x ∉ timers.map (·.2)) :
    Retimed handle next input timers timers [] []
  | armed : Retimed handle next (.line .model line) timers (timers ++ [(handle, next)]) [next] []
  | answered : Retimed handle next (.line .modem line) ((timer, x) :: timers) timers [] [timer]
  | drained {m : Mode} : Retimed handle next (.setMode m) timers [] [] (timers.map (·.1))
  | expired (hx : x ∈ timers.map (·.2)) :
    Retimed handle next (.timer x) timers (timers.eraseP (·.2 == x)) [] []

variable {r r' : Relay} {handle timer : TimerHandle} {input : Input} {actions : List Action}
  {x : ExchangeId}

theorem Move.config_eq (m : Move r handle input r' actions) : r'.config = r.config := by
  cases m <;> rfl

/-- A timer is armed for the exchange that the model's answer opens, and nothing else is asked
for. -/
theorem Move.of_arm (m : Move r handle input r' actions) {delay : Duration}
    (ha : .arm delay x ∈ actions) :
    ∃ line, input = .line .model line ∧ actions = [.arm r.config.responseTimeout r.pending.nextId] ∧
      r' = { r with pending := r.pending.pushModel line handle } ∧
      (∀ e ∈ r.pending.toList, e.ModelFirst) ∧ r.mode = .splitVerify := by
  cases m with
  | modelFirst hm hp => exact ⟨_, rfl, rfl, rfl, hp, hm⟩
  | modeTaken => rcases of_mem_drain ha with ⟨_, h⟩ | ⟨_, h⟩ | ⟨_, h⟩ <;> cases h
  | _ => simp at ha

theorem Action.mem_cancelled :
    timer ∈ actions.filterMap Action.cancelled? ↔ .cancel timer ∈ actions := by
  rw [List.mem_filterMap]
  constructor
  · rintro ⟨a, ha, hc⟩
    cases a <;> cases hc
    exact ha
  · exact fun ha => ⟨_, ha, rfl⟩

theorem armed_verdict (modem model : String) :
    (verdict modem model).filterMap Action.armed? = [] :=
  filterMap_verdict (fun _ => rfl) modem model

theorem cancelled_verdict (modem model : String) :
    (verdict modem model).filterMap Action.cancelled? = [] :=
  filterMap_verdict (fun _ => rfl) modem model

theorem armed_drain (next : Mode) (l : List Exchange) :
    (l.flatMap (drainRequests next)).filterMap Action.armed? = [] := by
  refine List.filterMap_eq_nil_iff.mpr fun a ha => ?_
  rcases of_mem_drain ha with ⟨_, rfl⟩ | ⟨_, rfl⟩ | ⟨_, rfl⟩ <;> rfl

theorem cancelled_drainRequests (next : Mode) {e : Exchange} (h : e.ModelFirst ∨ e.ModemFirst) :
    (drainRequests next e).filterMap Action.cancelled? = e.timer.toList := by
  rcases h with ⟨x, model, timer, rfl⟩ | ⟨x, modem, rfl⟩
  · rfl
  · cases next <;> rfl

/-- A change of mode calls off the timers of all pending exchanges. -/
theorem cancelled_drain (next : Mode) {l : List Exchange}
    (h : ∀ e ∈ l, e.ModelFirst ∨ e.ModemFirst) :
    (l.flatMap (drainRequests next)).filterMap Action.cancelled? = l.filterMap (·.timer) := by
  rw [List.filterMap_flatMap, List.filterMap_eq_flatMap_toList]
  exact List.flatMap_congr fun e he => cancelled_drainRequests next (h e he)

/-- A timer is that of a model answer which waits. -/
theorem Sound.mem_timers (h : r.Sound) :
    (timer, x) ∈ r.pending.timers ↔ ∃ model, .ofModel x model timer ∈ r.pending.toList := by
  simp only [PendingQueue.timers, List.mem_filterMap, Option.map_eq_some_iff, Prod.mk.injEq]
  constructor
  · rintro ⟨e, he, _, ht, rfl, rfl⟩
    rcases h.modelFirst_or_modemFirst he with ⟨y, model, timer, rfl⟩ | ⟨y, modem, rfl⟩
    · cases ht
      exact ⟨model, he⟩
    · cases ht
  · rintro ⟨model, he⟩
    exact ⟨_, he, timer, rfl, rfl, rfl⟩

theorem Sound.nodup_timers (h : r.Sound) : (r.pending.timers.map (·.2)).Nodup := by
  have hasc : r.pending.timers.Pairwise (·.2.val < ·.2.val) := by
    rw [PendingQueue.timers, List.pairwise_filterMap]
    refine h.ascending.imp fun {e e'} hlt t ht t' ht' => ?_
    obtain ⟨_, -, rfl⟩ := Option.map_eq_some_iff.mp ht
    obtain ⟨_, -, rfl⟩ := Option.map_eq_some_iff.mp ht'
    exact hlt
  exact List.pairwise_map.mpr (hasc.imp fun hlt heq => Nat.ne_of_lt hlt (congrArg _ heq))

/-- An exchange that leaves takes its timer with it. -/
theorem Sound.timers_eraseP (h : r.Sound) {rest : PendingQueue}
    (hl : rest.toList = r.pending.toList.eraseP (·.id == x)) :
    rest.timers = r.pending.timers.eraseP (·.2 == x) := by
  rcases h.oneSided with hs | hs
  · rw [PendingQueue.timers, PendingQueue.timers, hl]
    clear hl
    generalize r.pending.toList = l at hs
    induction l with
    | nil => rfl
    | cons e l ih =>
      rw [List.forall_mem_cons] at hs
      obtain ⟨⟨y, model, timer, rfl⟩, hs⟩ := hs
      by_cases hy : y = x
      · simp [hy]
      · simp [hy, ih hs]
  · have hs' : ∀ e ∈ rest.toList, e.ModemFirst := fun e he =>
      hs e (List.eraseP_subset (hl ▸ he))
    rw [PendingQueue.timers_of_modemFirst hs, PendingQueue.timers_of_modemFirst hs']
    rfl

/-- **A step retimes the pending exchanges**, and arms and cancels no other timers. -/
theorem Move.retimed (m : Move r handle input r' actions) (h : r.Sound) :
    Retimed handle r.pending.nextId input r.pending.timers r'.pending.timers
      (actions.filterMap Action.armed?) (actions.filterMap Action.cancelled?) := by
  cases m with
  | toModel | toModem | toBoth | modemLate | modemDropped | modemRelayed | modelRelayed
  | modelDropped | modeRefused | modeKept => exact .kept (by simp)
  | @modemPaired x model timer line rest hr hp hq =>
    obtain ⟨-, -, ht⟩ := PendingQueue.views_of_cons_ofModel hp
    rw [List.filterMap_cons, List.filterMap_cons, armed_verdict, cancelled_verdict, ht]
    exact .answered
  | modemFirst hr hp =>
    rw [PendingQueue.timers_pushModem]
    exact .kept (by simp)
  | @modelPaired x modem line rest hr hp hq =>
    obtain ⟨-, -, ht⟩ := PendingQueue.views_of_cons_ofModem hp
    rw [armed_verdict, cancelled_verdict, ht]
    exact .kept (by simp)
  | modelFirst hr hp =>
    rw [PendingQueue.timers_pushModel]
    exact .armed
  | @timeout x model timer rest hr hp hl hq =>
    rw [h.timers_eraseP hl]
    exact .expired (List.mem_map.mpr ⟨(timer, x), List.mem_filterMap.mpr ⟨_, hp, rfl⟩, rfl⟩)
  | @stale x hp =>
    refine .kept fun y hy hmem => ?_
    cases hy
    obtain ⟨⟨timer, _⟩, ht, rfl⟩ := List.mem_map.mp hmem
    obtain ⟨model, he⟩ := h.mem_timers.mp ht
    exact hp _ he rfl Exchange.modelFirst_ofModel
  | modeTaken hm hh =>
    rw [armed_drain, cancelled_drain _ fun e he => h.modelFirst_or_modemFirst he,
      ← PendingQueue.map_fst_timers]
    exact .drained

/-- The timer of the oldest exchange is never stale. -/
theorem Move.staleTimeouts_eq (m : Move r handle input r' actions) (h : r.Sound)
    {timers : List (TimerHandle × ExchangeId)}
    (ht : r.pending.timers = (input.timer?.map (timer, ·)).toList ++ timers) :
    r'.tally.staleTimeouts = r.tally.staleTimeouts := by
  cases m with
  | modemPaired | modelPaired =>
    simp only [compared]
    split <;> rfl
  | stale hp =>
    obtain ⟨model, rest, hl⟩ := h.head_of_timers ht
    exact (hp _ (hl ▸ List.mem_cons_self) rfl Exchange.modelFirst_ofModel).elim
  | _ => rfl

namespace Retimed

variable {next : ExchangeId} {before after : List (TimerHandle × ExchangeId)}
  {armed : List ExchangeId} {cancelled : List TimerHandle}

/-- Timers leave from anywhere, and one may join at the end. -/
theorem sublist_or_eq (h : Retimed handle next input before after armed cancelled) :
    (armed = [] ∧ after.Sublist before) ∨
      armed = [next] ∧ cancelled = [] ∧ after = before ++ [(handle, next)] := by
  cases h with
  | kept => exact .inl ⟨rfl, .refl _⟩
  | armed => exact .inr ⟨rfl, rfl, rfl⟩
  | answered => exact .inl ⟨rfl, List.sublist_cons_self ..⟩
  | drained => exact .inl ⟨rfl, List.nil_sublist _⟩
  | expired => exact .inl ⟨rfl, List.eraseP_sublist⟩

theorem nodup_cancelled (h : Retimed handle next input before after armed cancelled)
    (hn : (before.map (·.1)).Nodup) : cancelled.Nodup := by
  cases h with
  | kept | armed | expired => exact List.nodup_nil
  | answered => exact List.nodup_singleton _
  | drained => exact hn

/-- Only timers of pending exchanges are cancelled, and never while one fires. -/
theorem of_cancelled (h : Retimed handle next input before after armed cancelled)
    (hc : timer ∈ cancelled) : input.timer? = none ∧ ∃ x, (timer, x) ∈ before := by
  cases h with
  | kept | armed | expired => cases hc
  | answered =>
    obtain rfl := List.mem_singleton.mp hc
    exact ⟨rfl, _, List.mem_cons_self⟩
  | drained =>
    obtain ⟨t, ht, rfl⟩ := List.mem_map.mp hc
    exact ⟨rfl, t.2, ht⟩

/-- The timers left after a step that arms none, where `timers` are those that have not fired. -/
theorem after_eq {timers : List (TimerHandle × ExchangeId)}
    (h : Retimed handle next input before after [] cancelled) (hn : (before.map (·.1)).Nodup)
    (ht : before = (input.timer?.map (timer, ·)).toList ++ timers) :
    after = timers.filter (·.1 ∉ cancelled) := by
  cases h with
  | kept hx =>
    cases hi : input.timer? with
    | none =>
      rw [hi] at ht
      simp [ht]
    | some x => exact (hx x hi (by simp [ht, hi])).elim
  | @answered line first x =>
    obtain rfl : (first, x) :: after = timers := ht
    have hkeep : ∀ t ∈ after, t.1 ≠ first := fun t hmem heq =>
      (List.nodup_cons.mp hn).1 (List.mem_map.mpr ⟨t, hmem, heq⟩)
    symm
    simpa using hkeep
  | drained =>
    obtain rfl : before = timers := ht
    symm
    simpa using fun timer x hmem => ⟨x, hmem⟩
  | expired => simp [ht]

/-- The timers that are not there any more. -/
def lost (before after : List (TimerHandle × ExchangeId)) : List (TimerHandle × ExchangeId) :=
  before.filter (· ∉ after)

theorem lost_of_subset (h : before ⊆ after) : lost before after = [] := by
  simpa [lost] using fun timer x ht => h ht

theorem perm_append_lost (h : after.Sublist before) (hn : before.Nodup) :
    before.Perm (after ++ lost before after) := by
  have hkept : (before.filter (· ∈ after)).Perm after :=
    (List.perm_ext_iff_of_nodup (hn.filter _) (hn.sublist h)).mpr fun t => by
      simpa using fun ht => h.subset ht
  have hall := List.filter_append_perm (· ∈ after) before
  simp only [← decide_not] at hall
  exact hall.symm.trans (hkept.append_right _)

/-- Of the timers that there were and the one that is armed, none is lost sight of. -/
theorem perm (h : Retimed handle next input before after armed cancelled)
    (hn : (before.map (·.2)).Nodup) :
    (before ++ armed.map (handle, ·)).Perm (after ++ lost before after) := by
  rcases h.sublist_or_eq with ⟨rfl, hs⟩ | ⟨rfl, -, rfl⟩
  · simpa using perm_append_lost hs (List.Nodup.of_map _ hn)
  · simp [lost_of_subset]

/-- A timer is lost by firing, and is then not cancelled, or by being cancelled, which takes an
answer of the modem or a change of mode. -/
theorem lost_or_cancelled (h : Retimed handle next input before after armed cancelled)
    (hn : (before.map (·.2)).Nodup) :
    (cancelled = [] ∧ ∀ t ∈ lost before after, input = .timer t.2) ∨
      cancelled = (lost before after).map (·.1) ∧
        ((∃ line, input = .line .modem line) ∨ ∃ m, input = .setMode m) := by
  cases h with
  | kept => exact .inl ⟨rfl, by simp [lost_of_subset]⟩
  | armed => exact .inl ⟨rfl, by simp [lost_of_subset]⟩
  | @answered line timer x =>
    have hnew : (timer, x) ∉ after := (List.nodup_cons.mp (List.Nodup.of_map _ hn)).1
    have hlost : lost after after = [] := lost_of_subset fun _ => id
    refine .inr ⟨?_, .inl ⟨line, rfl⟩⟩
    rw [lost, List.filter_cons_of_pos (by simpa using hnew), ← lost, hlost]
    rfl
  | drained => exact .inr ⟨by simp [lost], .inr ⟨_, rfl⟩⟩
  | @expired x _ hx =>
    refine .inl ⟨rfl, fun t ht => ?_⟩
    obtain ⟨hmem, hlost⟩ := List.mem_filter.mp ht
    by_contra hne
    have hid : ¬(t.2 == x) = true := fun hid => hne (by rw [eq_of_beq hid])
    exact of_decide_eq_true hlost ((List.mem_eraseP_of_neg (p := (·.2 == x)) hid).mpr hmem)

end Retimed

namespace Move

theorem mem_timers (m : Move r handle input r' actions) (h : r.Sound)
    (hc : .cancel timer ∈ actions) :
    input.timer? = none ∧ ∃ x, (timer, x) ∈ r.pending.timers :=
  (m.retimed h).of_cancelled (Action.mem_cancelled.mpr hc)

/-- **The timers left after a step** that arms none, where `timers` are those that have not fired
yet. -/
theorem timers_eq (m : Move r handle input r' actions) (h : r.Sound)
    {timers : List (TimerHandle × ExchangeId)} (hn : (r.pending.timers.map (·.1)).Nodup)
    (ht : r.pending.timers = (input.timer?.map (timer, ·)).toList ++ timers)
    (ha : ∀ delay x, .arm delay x ∉ actions) :
    r'.pending.timers = timers.filter fun t => .cancel t.1 ∉ actions := by
  have harmed : actions.filterMap Action.armed? = [] := by
    refine List.filterMap_eq_nil_iff.mpr fun a hmem => ?_
    cases a with
    | arm delay x => exact (ha delay x hmem).elim
    | _ => rfl
  have hretimed := m.retimed h
  rw [harmed] at hretimed
  simpa only [Action.mem_cancelled] using hretimed.after_eq hn ht

end Move

end Relay

end ModemRelay
