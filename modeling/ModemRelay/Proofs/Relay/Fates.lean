import ModemRelay.Proofs.Relay.Calls

/-!
# What becomes of a timer

A run of a relay is seen call by call, with what each call asks of its surroundings (`watchAll`).
Each timer that is armed in a run either still waits, or is called off, or expires, and this for
good (`disciplined_handleAll`). It rests on a count: the timers armed so far are those that wait and
those that each call has lost (`Accounted`), and in each call the lost ones are called off or have
expired (`Retimed.lost_or_cancelled`).
-/

namespace ModemRelay.Relay

/-- A call of a relay with what it asks of its surroundings. -/
structure WatchedCall extends Call where
  /-- The handle that a timer armed in the call gets. -/
  timer : TimerHandle
  /-- All that is asked for in the call, in order. -/
  asked : List Action

namespace WatchedCall

/-- The timers that are armed, with their exchanges. -/
def armed (c : WatchedCall) : List (TimerHandle × ExchangeId) :=
  (c.asked.filterMap Action.armed?).map (c.timer, ·)

def cancelled (c : WatchedCall) : List TimerHandle := c.asked.filterMap Action.cancelled?

/-- The model's answer finds no exchange that waits for it. -/
def Opens (c : WatchedCall) : Prop :=
  c.before.mode = .splitVerify ∧ (∃ line, c.input = .line .model line) ∧
    ∀ e ∈ c.before.pending.toList, e.awaitsModel = false

/-- The exchange of the timer is pending before the call and not after it. -/
def Ends (c : WatchedCall) (t : TimerHandle × ExchangeId) : Prop :=
  t ∈ c.before.pending.timers ∧ ∀ e ∈ c.after.pending.toList, e.id ≠ t.2

end WatchedCall

variable {σ : Type} {host : Host σ} {r r' : Relay} {s s' : σ} {input : Input}
  {inputs : List Input} {c : WatchedCall} {calls : List WatchedCall}
  {t : TimerHandle × ExchangeId} {timer : TimerHandle} {actions asked : List Action}
  {x : ExchangeId}

/-- The relay takes inputs in order, and what each call asks for is kept with it. -/
def watchAll (host : Host σ) : List Input → Relay → σ → Outcome (Relay × σ) (List WatchedCall)
  | [], r, s => .done [] (r, s)
  | input :: rest, r, s =>
    match handle (host.watched Action.asked?) input r (s, []) with
    | .done () (r', (s', asked)) =>
      (watchAll host rest r' s').map (⟨⟨r, input, r'⟩, host.nextTimer s, asked⟩ :: ·)
    | .overflow (r', (s', _)) => .overflow (r', s')

theorem watchAll_cons_done
    (h : watchAll host (input :: inputs) r s = .done calls (r', s')) :
    ∃ r₁ s₁ asked rest,
      handle (host.watched Action.asked?) input r (s, []) = .done () (r₁, (s₁, asked)) ∧
      watchAll host inputs r₁ s₁ = .done rest (r', s') ∧
      calls = ⟨⟨r, input, r₁⟩, host.nextTimer s, asked⟩ :: rest := by
  rw [watchAll] at h
  split at h
  · next r₁ s₁ asked hcall =>
    obtain ⟨rest, hrest, rfl⟩ := Outcome.map_eq_done.mp h
    exact ⟨r₁, s₁, asked, rest, hcall, hrest, rfl⟩
  · cases h

/-- To keep what each call asks for is to split what is asked for in the whole run. -/
theorem exists_watchAll {calls : List Call} {past asked : List Action}
    (hrun : handleAll (host.watched Action.asked?) inputs r (s, past) =
      .done calls (r', (s', asked))) :
    ∃ told, watchAll host inputs r s = .done told (r', s') ∧ told.map (·.toCall) = calls ∧
      asked = past ++ told.flatMap (·.asked) := by
  induction inputs generalizing r s past calls with
  | nil =>
    cases hrun
    exact ⟨[], rfl, rfl, (List.append_nil _).symm⟩
  | cons input rest ih =>
    obtain ⟨r₁, ⟨s₁, seen⟩, later, hcall, hrest, rfl⟩ := handleAll_cons_done hrun
    obtain ⟨new, hnew, rfl⟩ := handle_watched_of_nil Action.outward_asked? hcall
    obtain ⟨told, htold, rfl, rfl⟩ := ih hrest
    refine ⟨⟨⟨r, input, r₁⟩, host.nextTimer s, new⟩ :: told, ?_, rfl, ?_⟩
    · rw [watchAll, hnew]
      exact Outcome.map_eq_done.mpr ⟨told, htold, rfl⟩
    · rw [List.flatMap_cons, List.append_assoc]

/-! ## One call -/

theorem Move.mem_pending (m : Move r timer input r' actions) {e : Exchange}
    (he : e ∈ r'.pending.toList) : e ∈ r.pending.toList ∨ e.id = r.pending.nextId := by
  cases m with
  | modemPaired hr hp | modelPaired hr hp => exact .inl (hp ▸ List.mem_cons_of_mem _ he)
  | modemFirst =>
    rw [PendingQueue.toList_pushModem, List.mem_append, List.mem_singleton] at he
    exact he.imp_right (congrArg Exchange.id)
  | modelFirst =>
    rw [PendingQueue.toList_pushModel, List.mem_append, List.mem_singleton] at he
    exact he.imp_right (congrArg Exchange.id)
  | timeout hr hp hl => exact .inl (List.eraseP_subset (hl ▸ he))
  | modeTaken => exact nomatch he
  | _ => exact .inl he

theorem Move.armed_eq (m : Move r timer input r' actions) :
    actions.filterMap Action.armed? = [r.pending.nextId] ∧ r.mode = .splitVerify ∧
        (∃ line, input = .line .model line) ∧ (∀ e ∈ r.pending.toList, e.awaitsModel = false) ∨
      actions.filterMap Action.armed? = [] ∧
        ¬(r.mode = .splitVerify ∧ (∃ line, input = .line .model line) ∧
          ∀ e ∈ r.pending.toList, e.awaitsModel = false) := by
  cases m with
  | modelFirst hm hp =>
    refine .inl ⟨rfl, hm, ⟨_, rfl⟩, fun e he => ?_⟩
    obtain ⟨x, model, timer, rfl⟩ := hp e he
    rfl
  | @modelPaired x modem line rest hm hp hq =>
    refine .inr ⟨armed_verdict _ _, fun ⟨_, _, hnone⟩ => ?_⟩
    exact nomatch hnone (.ofModem x modem) (hp ▸ List.mem_cons_self)
  | modelRelayed hm | modelDropped hm => exact .inr ⟨rfl, by simp [hm]⟩
  | modemPaired => exact .inr ⟨armed_verdict _ _, by simp⟩
  | modeTaken => exact .inr ⟨armed_drain _ _, by simp⟩
  | _ => exact .inr ⟨rfl, by simp⟩

/-- A call of a sound relay, which makes a move. -/
structure WatchedCall.Moved (c : WatchedCall) : Prop where
  sound : c.before.Sound
  move : ∃ deliveries, Move c.before c.timer c.input { c.after with deliveries } c.asked

theorem Sound.moved (h : r.Sound)
    (hcall : handle (host.watched Action.asked?) input r (s, []) = .done () (r', (s', asked))) :
    WatchedCall.Moved ⟨⟨r, input, r'⟩, host.nextTimer s, asked⟩ := by
  obtain ⟨r₁, actions, deliveries, hmove, rfl, hasked, -⟩ :=
    h.move_watched Action.outward_asked? hcall
  rw [hmove.filterMap_asked?, List.nil_append] at hasked
  exact ⟨h, r₁.deliveries, hasked ▸ hmove⟩

namespace WatchedCall

open Retimed (lost)

/-- The timers that the call loses. -/
def ended (c : WatchedCall) : List (TimerHandle × ExchangeId) :=
  lost c.before.pending.timers c.after.pending.timers

namespace Moved

theorem sound_after (h : c.Moved) : c.after.Sound := by
  obtain ⟨deliveries, hmove⟩ := h.move
  exact (hmove.sound h.sound).deliver c.after.deliveries

theorem retimed (h : c.Moved) :
    Retimed c.timer c.before.pending.nextId c.input c.before.pending.timers
      c.after.pending.timers (c.asked.filterMap Action.armed?) c.cancelled := by
  obtain ⟨deliveries, hmove⟩ := h.move
  exact hmove.retimed h.sound

theorem perm (h : c.Moved) :
    (c.before.pending.timers ++ c.armed).Perm (c.after.pending.timers ++ c.ended) :=
  h.retimed.perm h.sound.nodup_timers

theorem ends_of_mem_ended (h : c.Moved) (ht : t ∈ c.ended) : c.Ends t := by
  obtain ⟨hmem, hlost⟩ := List.mem_filter.mp ht
  refine ⟨hmem, fun e he hid => of_decide_eq_true hlost ?_⟩
  obtain ⟨deliveries, hmove⟩ := h.move
  obtain ⟨model, hmodel⟩ := h.sound.mem_timers.mp hmem
  rcases hmove.mem_pending he with hold | hnew
  · -- the exchange is still there, and so is its timer
    cases h.sound.eq_of_id hold hmodel hid
    exact h.sound_after.mem_timers.mpr ⟨model, he⟩
  · have hfresh := h.sound.fresh _ hmodel
    rw [Exchange.id_ofModel, ← hid, hnew] at hfresh
    exact (Nat.lt_irrefl _ hfresh).elim

theorem opens_or (h : c.Moved) :
    c.Opens ∧ c.armed = [(c.timer, c.before.pending.nextId)] ∨ ¬c.Opens ∧ c.armed = [] := by
  obtain ⟨deliveries, hmove⟩ := h.move
  rcases hmove.armed_eq with ⟨harmed, hopens⟩ | ⟨harmed, hopens⟩
  · exact .inl ⟨hopens, by rw [armed, harmed]; rfl⟩
  · exact .inr ⟨hopens, by rw [armed, harmed]; rfl⟩

theorem mem_ended_of_cancelled (h : c.Moved) (hc : timer ∈ c.cancelled) :
    timer ∈ c.ended.map (·.1) := by
  rcases h.retimed.lost_or_cancelled h.sound.nodup_timers with ⟨hnone, -⟩ | ⟨hall, -⟩
  · simp [hnone] at hc
  · exact hall ▸ hc

end Moved

theorem mem_ended_of_ends (he : c.Ends t) : t ∈ c.ended := by
  refine List.mem_filter.mpr ⟨he.1, decide_eq_true fun hmem => ?_⟩
  obtain ⟨e, he', htimer⟩ := List.mem_filterMap.mp hmem
  obtain ⟨timer, -, rfl⟩ := Option.map_eq_some_iff.mp htimer
  exact he.2 e he' rfl

/-- A timer is lost in one call only, and there once. -/
theorem ended_once {before after : List WatchedCall}
    (hn : (((before ++ c :: after).flatMap ended).map (·.1)).Nodup) (ht : t ∈ c.ended) :
    (c.ended.map (·.1)).count t.1 = 1 ∧
      ∀ c' ∈ before ++ after, t.1 ∉ c'.ended.map (·.1) := by
  have hmem := List.mem_map_of_mem (f := (·.1)) ht
  have hmiddle : (before ++ c :: after).Perm (c :: (before ++ after)) := List.perm_middle
  have hperm := (hmiddle.flatMap_right ended).map (·.1)
  rw [List.flatMap_cons, List.map_append] at hperm
  obtain ⟨hown, -, hothers⟩ := List.nodup_append.mp (hperm.nodup_iff.mp hn)
  refine ⟨List.count_eq_one_of_mem hown hmem, fun c' hc' hmem' => ?_⟩
  obtain ⟨t', ht', heq⟩ := List.mem_map.mp hmem'
  exact hothers _ hmem _ (List.mem_map.mpr ⟨t', List.mem_flatMap.mpr ⟨c', hc', ht'⟩, heq⟩) rfl

end WatchedCall

/-! ## All calls of a run -/

/-- **No timer is lost sight of**: each call makes a move, and the timers that waited at first and
those armed since are those that wait and those that some call has lost. -/
theorem Sound.moved_watchAll (h : r.Sound)
    (hrun : watchAll host inputs r s = .done calls (r', s')) :
    (∀ c ∈ calls, c.Moved) ∧
      (r.pending.timers ++ calls.flatMap WatchedCall.armed).Perm
        (r'.pending.timers ++ calls.flatMap WatchedCall.ended) := by
  induction inputs generalizing r s calls with
  | nil =>
    cases hrun
    exact ⟨List.forall_mem_nil _, .refl _⟩
  | cons input rest ih =>
    obtain ⟨r₁, s₁, asked, later, hcall, hrest, rfl⟩ := watchAll_cons_done hrun
    have hmoved := h.moved hcall
    obtain ⟨hlater, hperm⟩ := ih hmoved.sound_after hrest
    refine ⟨List.forall_mem_cons.mpr ⟨hmoved, hlater⟩, ?_⟩
    rw [List.flatMap_cons, List.flatMap_cons, ← List.append_assoc]
    refine (hmoved.perm.append_right _).trans ?_
    rw [List.append_assoc]
    refine List.perm_append_comm_assoc .. |>.trans ?_
    exact (hperm.append_left _).trans (List.perm_append_comm_assoc ..)

/-! ## The three fates -/

section

variable (calls : List WatchedCall)

/-- The exchange of the timer is pending, and the timer has not been cancelled. -/
def Waits (r : Relay) (t : TimerHandle × ExchangeId) : Prop :=
  t ∈ r.pending.timers ∧ ∀ c ∈ calls, t.1 ∉ c.cancelled

/-- An answer of the modem or a change of mode has completed the exchange of the timer, and in that
call the timer was cancelled, once, and in no other. -/
def CalledOff (t : TimerHandle × ExchangeId) : Prop :=
  ∃ before c after, calls = before ++ c :: after ∧ c.Ends t ∧
    ((∃ line, c.input = .line .modem line) ∨ ∃ mode, c.input = .setMode mode) ∧
    c.cancelled.count t.1 = 1 ∧ ∀ c' ∈ before ++ after, t.1 ∉ c'.cancelled

/-- The timer has fired and ended its exchange, and it is never cancelled. -/
def Expired (t : TimerHandle × ExchangeId) : Prop :=
  ∃ c ∈ calls, c.Ends t ∧ c.input = .timer t.2 ∧ ∀ c' ∈ calls, t.1 ∉ c'.cancelled

/-- What becomes of the timers in a run that leads to the relay `r`. -/
structure Disciplined (r : Relay) : Prop where
  /-- A timer is armed where the model's answer opens an exchange, and for that exchange. -/
  armed : ∀ c ∈ calls, (c.Opens → c.armed = [(c.timer, c.before.pending.nextId)]) ∧
    (¬c.Opens → c.armed = [])
  /-- Each timer that was armed has exactly one of three fates. -/
  fate : ∀ t ∈ calls.flatMap WatchedCall.armed,
    (Waits calls r t ∧ ¬CalledOff calls t ∧ ¬Expired calls t) ∨
    (¬Waits calls r t ∧ CalledOff calls t ∧ ¬Expired calls t) ∨
    (¬Waits calls r t ∧ ¬CalledOff calls t ∧ Expired calls t)
  /-- Nothing is cancelled but a timer that was armed and is called off. -/
  cancelled : ∀ c ∈ calls, ∀ timer ∈ c.cancelled,
    ∃ x, (timer, x) ∈ calls.flatMap WatchedCall.armed ∧ CalledOff calls (timer, x)

end

/-- The calls of a run that leads to the relay `r`, with no timer lost sight of and no handle given
to two of them. -/
structure Accounted (calls : List WatchedCall) (r : Relay) : Prop where
  moved : ∀ c ∈ calls, c.Moved
  perm : (calls.flatMap WatchedCall.armed).Perm
    (r.pending.timers ++ calls.flatMap WatchedCall.ended)
  nodup : ((r.pending.timers ++ calls.flatMap WatchedCall.ended).map (·.1)).Nodup

theorem CalledOff.not_expired (h : CalledOff calls t) : ¬Expired calls t := by
  rintro ⟨-, -, -, -, hnever⟩
  obtain ⟨before, c, after, rfl, -, -, honce, -⟩ := h
  have hmem : t.1 ∈ c.cancelled := List.count_pos_iff.mp (by omega)
  exact hnever c (by simp) hmem

namespace Accounted

theorem disjoint (h : Accounted calls r) (ht : t ∈ r.pending.timers) (hc : c ∈ calls) :
    t.1 ∉ c.ended.map (·.1) := by
  intro hmem
  obtain ⟨t', ht', heq⟩ := List.mem_map.mp hmem
  have hn := h.nodup
  rw [List.map_append] at hn
  exact (List.nodup_append.mp hn).2.2 _ (List.mem_map_of_mem ht) _
    (List.mem_map_of_mem (List.mem_flatMap.mpr ⟨c, hc, ht'⟩)) heq.symm

theorem waits (h : Accounted calls r) (ht : t ∈ r.pending.timers) : Waits calls r t :=
  ⟨ht, fun c hc hcancelled =>
    h.disjoint ht hc ((h.moved c hc).mem_ended_of_cancelled hcancelled)⟩

theorem not_waits (h : Accounted calls r) (hc : c ∈ calls) (he : c.Ends t) :
    ¬Waits calls r t :=
  fun hw => h.disjoint hw.1 hc (List.mem_map_of_mem (WatchedCall.mem_ended_of_ends he))

/-- A timer that a call has lost is called off if the call cancels timers, and has expired if it
does not. -/
theorem calledOff_or_expired (h : Accounted calls r) (hc : c ∈ calls) (ht : t ∈ c.ended) :
    CalledOff calls t ∧ c.cancelled = c.ended.map (·.1) ∨
      Expired calls t ∧ c.cancelled = [] := by
  have hmoved := h.moved
  have hends := (hmoved c hc).ends_of_mem_ended ht
  have hlost := (hmoved c hc).retimed.lost_or_cancelled (hmoved c hc).sound.nodup_timers
  obtain ⟨before, after, rfl⟩ := List.append_of_mem hc
  have hn := h.nodup.sublist ((List.sublist_append_right ..).map _)
  obtain ⟨honce, hothers⟩ := WatchedCall.ended_once hn ht
  have hkept : ∀ c' ∈ before ++ after, t.1 ∉ c'.cancelled := fun c' hc' hcancelled => by
    have hmem : c' ∈ before ++ c :: after := by
      rw [List.mem_append] at hc' ⊢
      exact hc'.imp_right (List.mem_cons_of_mem _)
    exact hothers c' hc' ((hmoved c' hmem).mem_ended_of_cancelled hcancelled)
  rcases hlost with ⟨hnone, htimer⟩ | ⟨hall, hinput⟩
  · refine .inr ⟨⟨c, hc, hends, htimer t ht, fun c' hc' => ?_⟩, hnone⟩
    rw [List.mem_append, List.mem_cons] at hc'
    rcases hc' with hc' | rfl | hc'
    · exact hkept c' (List.mem_append_left _ hc')
    · simp [hnone]
    · exact hkept c' (List.mem_append_right _ hc')
  · refine .inl ⟨⟨before, c, after, rfl, hends, hinput, ?_, hkept⟩, hall⟩
    rw [hall]
    exact honce

theorem disciplined (h : Accounted calls r) : Disciplined calls r where
  armed c hc := by
    rcases (h.moved c hc).opens_or with ⟨hopens, harmed⟩ | ⟨hopens, harmed⟩
    · exact ⟨fun _ => harmed, fun hnot => (hnot hopens).elim⟩
    · exact ⟨fun hyes => (hopens hyes).elim, fun _ => harmed⟩
  fate t ht := by
    rcases List.mem_append.mp (h.perm.subset ht) with hpending | hlost
    · have hw := h.waits hpending
      refine .inl ⟨hw, ?_, ?_⟩
      · rintro ⟨before, c, after, rfl, hends, -⟩
        exact h.not_waits (by simp) hends hw
      · rintro ⟨c, hc, hends, -⟩
        exact h.not_waits hc hends hw
    · obtain ⟨c, hc, hlost⟩ := List.mem_flatMap.mp hlost
      have hw := h.not_waits hc ((h.moved c hc).ends_of_mem_ended hlost)
      rcases h.calledOff_or_expired hc hlost with ⟨hoff, -⟩ | ⟨hexpired, -⟩
      · exact .inr (.inl ⟨hw, hoff, hoff.not_expired⟩)
      · exact .inr (.inr ⟨hw, fun hoff => hoff.not_expired hexpired, hexpired⟩)
  cancelled c hc timer htimer := by
    obtain ⟨⟨_, x⟩, hlost, rfl⟩ :=
      List.mem_map.mp ((h.moved c hc).mem_ended_of_cancelled htimer)
    have hmem := List.mem_append_right r.pending.timers (List.mem_flatMap.mpr ⟨c, hc, hlost⟩)
    refine ⟨x, h.perm.symm.subset hmem, ?_⟩
    rcases h.calledOff_or_expired hc hlost with ⟨hoff, -⟩ | ⟨-, hnone⟩
    · exact hoff
    · simp [hnone] at htimer

end Accounted

/-- **Each timer has one of three fates**, where no handle is given to two timers: its exchange is
pending, or the exchange was completed and the timer cancelled with it, or it has fired. Which
timers are armed and cancelled is told by what the surroundings are asked for in each call. -/
theorem disciplined_handleAll (host : Host σ) (inputs : List Input) (config : Config)
    (hasModem : Bool) (s : σ) {calls : List Call}
    (hrun : handleAll (host.watched Action.asked?) inputs (.new config hasModem) (s, []) =
      .done calls (r, (s', asked))) :
    ∃ told, watchAll host inputs (.new config hasModem) s = .done told (r, s') ∧
      told.map (·.toCall) = calls ∧ told.flatMap (·.asked) = asked ∧
      (((told.flatMap WatchedCall.armed).map (·.1)).Nodup → Disciplined told r) := by
  obtain ⟨told, htold, hcalls, hasked⟩ := exists_watchAll hrun
  obtain ⟨hmoved, hperm⟩ := (Sound.new config hasModem).moved_watchAll htold
  refine ⟨told, htold, hcalls, hasked.symm, fun hf => Accounted.disciplined ⟨hmoved, hperm, ?_⟩⟩
  exact (hperm.map (·.1)).nodup_iff.mp hf

/-- The model's first answer is met by the modem's, its second times out, its third is drained and
its fourth still waits. -/
def fates : List Input :=
  [.setMode .splitVerify, .line .model "A", .line .model "B", .line .model "C",
    .line .modem "a", .timer ⟨1⟩, .timer ⟨1⟩, .timer ⟨7⟩, .setMode .wardModel,
    .setMode .splitVerify, .line .model "D"]

theorem disciplined_handleAll_fates :
    ∃ calls r s asked told, Journal.watch Action.asked? fates = .done calls (r, (s, asked)) ∧
      watchAll Journal.host fates (.new {} true) ⟨⟨1⟩, [], #[], {}, #[]⟩ = .done told (r, s) ∧
      told.flatMap WatchedCall.armed =
        [(⟨1⟩, ⟨0⟩), (⟨2⟩, ⟨1⟩), (⟨3⟩, ⟨2⟩), (⟨4⟩, ⟨3⟩)] ∧
      told.map (·.cancelled) = [[], [], [], [], [⟨1⟩], [], [], [], [⟨3⟩], [], []] ∧
      Disciplined told r := by
  have hrun := Outcome.eq_done (o := Journal.watch Action.asked? fates) (by decide +kernel)
  have htold := Outcome.eq_done (o := watchAll Journal.host fates (.new {} true)
    ⟨⟨1⟩, [], #[], {}, #[]⟩) (by decide +kernel)
  obtain ⟨told, htold', -, -, hd⟩ := disciplined_handleAll _ _ _ _ _ hrun
  obtain ⟨rfl, -⟩ := Outcome.done.inj (htold.symm.trans htold')
  exact ⟨_, _, _, _, _, hrun, htold', by decide +kernel, by decide +kernel,
    hd (by decide +kernel)⟩

end ModemRelay.Relay
