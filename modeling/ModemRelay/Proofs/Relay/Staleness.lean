import ModemRelay.Proofs.Relay.Answering
import ModemRelay.Proofs.Relay.Counters
import ModemRelay.Proofs.Relay.Fates

/-!
# Timers that come too late

A timer of an exchange that does not wait for the modem is stale: it is counted, and nothing else
comes of it (`handle_of_stale`). Such timers can be left out of a run and put into it at any place,
and the run goes on as it did (`Edited`). That a timer is stale once its exchange has ended rests on
numbers that are not given twice: an exchange that has left does not come back (`OnceGone`).
-/

namespace ModemRelay

namespace PendingQueue

/-- The numbers of the pending exchanges. -/
def ids (q : PendingQueue) : List ExchangeId := q.toList.map (·.id)

/-- The exchange of this number has been pending and has left. -/
structure Gone (q : PendingQueue) (x : ExchangeId) : Prop where
  lt : x.val < q.nextId.val
  not_mem : x ∉ q.ids

end PendingQueue

namespace Relay

variable {σ τ : Type} {host : Host σ} {shown : σ → τ} {r r' r₁ : Relay} {s s' s₁ : σ}
  {input : Input} {inputs : List Input} {calls : List Call} {x : ExchangeId}

/-! ## Exchanges that have left -/

section

variable {timer : TimerHandle} {actions : List Action}

/-- An exchange that is gone does not come back. -/
theorem Move.gone (m : Move r timer input r' actions) (h : r.pending.Gone x) :
    r'.pending.Gone x where
  lt := Nat.lt_of_lt_of_le h.lt m.nextId_le
  not_mem hx := by
    obtain ⟨e, he, rfl⟩ := List.mem_map.mp hx
    rcases m.mem_pending he with hold | hnew
    · exact h.not_mem (List.mem_map_of_mem hold)
    · exact Nat.lt_irrefl _ (hnew ▸ h.lt)

/-- An exchange that a step ends is gone. -/
theorem Move.gone_of_ends (m : Move r timer input r' actions) (h : r.Sound)
    (hx : x ∈ r.pending.ids) (hx' : x ∉ r'.pending.ids) : r'.pending.Gone x where
  lt := by
    obtain ⟨e, he, rfl⟩ := List.mem_map.mp hx
    exact Nat.lt_of_lt_of_le (h.fresh e he) m.nextId_le
  not_mem := hx'

end

theorem not_mem_ids_handleAll (h : r.Sound) (hx : r.pending.Gone x)
    (hrun : handleAll host inputs r s = .done calls (r', s')) :
    ∀ c ∈ calls, x ∉ c.after.pending.ids := by
  have hgone : r'.pending.Gone x ∧ ∀ c ∈ calls, x ∉ c.after.pending.ids := by
    refine h.calls_invariant (I := fun past r _ => r.pending.Gone x ∧
      ∀ c ∈ past, x ∉ c.after.pending.ids) ?_ ⟨hx, List.forall_mem_nil _⟩ hrun
    rintro past r input r' s s' h ⟨hx, hpast⟩ hcall
    obtain ⟨timer, r₁, actions, deliveries, hmove, rfl⟩ := h.move_handle hcall
    have hx₁ := hmove.gone hx
    exact ⟨hx₁, List.forall_mem_append.mpr ⟨hpast, List.forall_mem_singleton.mpr hx₁.not_mem⟩⟩
  exact hgone.2

/-- An exchange that leaves in one call is pending in none that comes after it. -/
def OnceGone (calls : List Call) : Prop :=
  ∀ before c after x, calls = before ++ c :: after →
    x ∈ c.before.pending.ids → x ∉ c.after.pending.ids →
    ∀ c' ∈ after, x ∉ c'.after.pending.ids

theorem onceGone_handleAll (h : r.Sound)
    (hrun : handleAll host inputs r s = .done calls (r', s')) : OnceGone calls := by
  induction inputs generalizing r s calls with
  | nil =>
    cases hrun
    exact fun before c after x hcalls => by simp at hcalls
  | cons input rest ih =>
    obtain ⟨_, _, later, hcall, hrest, rfl⟩ := handleAll_cons_done hrun
    obtain ⟨timer, r₁, actions, deliveries, hmove, rfl⟩ := h.move_handle hcall
    have h₁ := (hmove.sound h).deliver deliveries
    intro before c after x hcalls hx hx'
    cases before with
    | nil =>
      obtain ⟨rfl, rfl⟩ := List.cons.inj hcalls
      exact not_mem_ids_handleAll h₁ (hmove.gone_of_ends h hx hx') hrest
    | cons _ before =>
      obtain ⟨-, hlater⟩ := List.cons.inj hcalls
      exact ih h₁ hrest before c after x hlater hx hx'

/-! ## Stale timers -/

/-- No exchange of this number waits for the modem. -/
def Stale (r : Relay) (x : ExchangeId) : Prop :=
  ∀ e ∈ r.pending.toList, e.id = x → e.awaitsModem = false

instance : Decidable (r.Stale x) :=
  inferInstanceAs (Decidable (∀ e ∈ r.pending.toList, e.id = x → e.awaitsModem = false))

/-- The relay with `n` more stale timers counted. -/
def moreStale (r : Relay) (n : Nat) : Relay := r.recount n r.deliveries

@[simp] theorem moreStale_moreStale (n k : Nat) :
    (r.moreStale n).moreStale k = r.moreStale (n + k) := by
  simp [moreStale, recount, Nat.add_assoc]

theorem moreStale_succ {k k' : Nat} (h : r.moreStale k = r'.moreStale k') :
    r.moreStale (k + 1) = r'.moreStale (k' + 1) := by
  rw [← moreStale_moreStale, h, moreStale_moreStale]

theorem onTimer_of_stale (h : r.Stale x) :
    r.onTimer x = (r.moreStale 1, [.note (.staleTimer x)]) := by
  unfold onTimer
  split
  · next model timer rest hr =>
    obtain ⟨hget, -, -⟩ := PendingQueue.remove_eq_some hr
    rw [PendingQueue.get?_eq] at hget
    have hwaits := h _ (List.mem_of_find?_eq_some hget) (by simpa using List.find?_some hget)
    exact nomatch hwaits
  · rfl

/-- **A stale timer is counted, and that is all.** -/
theorem handle_of_stale (h : r.Stale x) (s : σ) :
    handle host (.timer x) r s = .done () (r.moreStale 1, host.note (.staleTimer x) s) := by
  unfold handle
  simp only [step, onTimer_of_stale h, performAll, perform]
  rfl

/-- Relays that differ by stale timers go on alike. -/
theorem Host.AnswersBy.handle_moreStale (h : host.AnswersBy shown) {k k' : Nat}
    (hr : r.moreStale k = r'.moreStale k') (hs : shown s = shown s')
    (hcall : Relay.handle host input r s = .done () (r₁, s₁)) :
    ∃ r₁' s₁', Relay.handle host input r' s' = .done () (r₁', s₁') ∧
      r₁.moreStale k = r₁'.moreStale k' ∧ shown s₁ = shown s₁' := by
  have hstep : ((r.step (host.nextTimer s) input).1.recount k r.deliveries,
        (r.step (host.nextTimer s) input).2) =
      ((r'.step (host.nextTimer s) input).1.recount k' r'.deliveries,
        (r'.step (host.nextTimer s) input).2) := by
    rw [← step_recount, ← step_recount]
    exact congrArg (·.step (host.nextTimer s) input) hr
  have hd : r.deliveries = r'.deliveries := by simpa [moreStale] using congrArg (·.deliveries) hr
  obtain ⟨deliveries, s₁', rfl, hcall', hshown⟩ :=
    h.handle Host.ignores_nothing hs hd (congrArg (List.filter _ ·.2) hstep) hcall
  refine ⟨_, s₁', hcall', ?_, hshown⟩
  exact congrArg (fun p => { p.1 with deliveries }) hstep

/-! ## Runs with other stale timers -/

/-- The inputs of a run, from the relay on, with some stale timers left out and others put in, and
how many of each. -/
inductive Edited : Relay → List Call → List Input → Nat → Nat → Prop where
  | nil (r : Relay) : Edited r [] [] 0 0
  | keep (r r' : Relay) (input : Input) {calls inputs dropped added} :
    Edited r' calls inputs dropped added →
    Edited r (⟨r, input, r'⟩ :: calls) (input :: inputs) dropped added
  | drop (r r' : Relay) (x : ExchangeId) {calls inputs dropped added} : r.Stale x →
    Edited r' calls inputs dropped added →
    Edited r (⟨r, .timer x, r'⟩ :: calls) inputs (dropped + 1) added
  | add (r : Relay) (x : ExchangeId) {calls inputs dropped added} : r.Stale x →
    Edited r calls inputs dropped added →
    Edited r calls (.timer x :: inputs) dropped (added + 1)

variable {inputs' : List Input} {dropped added : Nat}

private theorem handleAll_of_edited (h : host.AnswersBy shown)
    (he : Edited r calls inputs' dropped added) (k k' : Nat) {r₀ : Relay} {s₀ : σ}
    (hrun : handleAll host inputs r s = .done calls (r₁, s₁))
    (hr : r.moreStale k = r₀.moreStale k') (hs : shown s = shown s₀) :
    ∃ calls' r₁' s₁', handleAll host inputs' r₀ s₀ = .done calls' (r₁', s₁') ∧
      r₁.moreStale (k + added) = r₁'.moreStale (k' + dropped) ∧ shown s₁ = shown s₁' := by
  induction he generalizing inputs s k k' r₀ s₀ with
  | nil r =>
    cases inputs with
    | nil =>
      cases hrun
      exact ⟨[], r₀, s₀, rfl, hr, hs⟩
    | cons =>
      obtain ⟨_, _, _, -, -, hcalls⟩ := handleAll_cons_done hrun
      cases hcalls
  | keep r r' input he ih =>
    cases inputs with
    | nil => cases hrun
    | cons input rest =>
      obtain ⟨r₂, s₂, later, hcall, hrest, hcalls⟩ := handleAll_cons_done hrun
      cases hcalls
      obtain ⟨r₂', s₂', hcall', hr₂, hs₂⟩ := h.handle_moreStale hr hs hcall
      obtain ⟨calls', r₁', s₁', hrest', heq, hshown⟩ := ih _ _ hrest hr₂ hs₂
      exact ⟨_, r₁', s₁', handleAll_cons_of_done hcall' hrest', heq, hshown⟩
  | drop r r' x hx he ih =>
    cases inputs with
    | nil => cases hrun
    | cons input rest =>
      obtain ⟨r₂, s₂, later, hcall, hrest, hcalls⟩ := handleAll_cons_done hrun
      cases hcalls
      rw [handle_of_stale hx] at hcall
      cases hcall
      have hr₂ : (r.moreStale 1).moreStale k = r₀.moreStale (k' + 1) := by
        rw [moreStale_moreStale, Nat.add_comm, moreStale_succ hr]
      rw [← Nat.add_assoc, Nat.add_right_comm]
      exact ih _ _ hrest hr₂ ((h.note _ s).trans hs)
  | add r x hx he ih =>
    have hx₀ : r₀.Stale x := by
      have hp : r.pending = r₀.pending := congrArg (·.pending) hr
      unfold Stale
      exact hp ▸ hx
    have hr₂ : r.moreStale (k + 1) = (r₀.moreStale 1).moreStale k' := by
      rw [moreStale_moreStale, Nat.add_comm 1, moreStale_succ hr]
    obtain ⟨calls', r₁', s₁', hrest', heq, hshown⟩ :=
      ih _ _ hrun hr₂ (hs.trans (h.note (.staleTimer x) s₀).symm)
    rw [Nat.add_right_comm] at heq
    exact ⟨_, r₁', s₁', handleAll_cons_of_done (handle_of_stale hx₀ s₀) hrest', heq, hshown⟩

/-- **Stale timers are invisible.** An exchange that has left the queue is never pending again, and
with any stale timers left out and any others put in, the same is asked for in the same order, and
the relay is the same but for the number of stale timers, which is greater by those put in and less
by those left out. -/
theorem asked_handleAll_of_edited (h : host.AnswersBy shown) (config : Config) (hasModem : Bool)
    {asked : List Action}
    (hrun : handleAll (host.watched Action.asked?) inputs (.new config hasModem) (s, []) =
      .done calls (r, (s₁, asked))) :
    OnceGone calls ∧ ∀ inputs' dropped added,
      Edited (.new config hasModem) calls inputs' dropped added →
      ∃ calls' r' s₁', handleAll (host.watched Action.asked?) inputs' (.new config hasModem)
          (s, []) = .done calls' (r', (s₁', asked)) ∧
        r.moreStale added = r'.moreStale dropped ∧ shown s₁ = shown s₁' := by
  refine ⟨onceGone_handleAll (.new config hasModem) hrun, fun inputs' dropped added he => ?_⟩
  obtain ⟨calls', r', ⟨s₁', asked'⟩, hrun', heq, hshown⟩ :=
    handleAll_of_edited (h.watched Action.asked?) he 0 0 hrun rfl rfl
  obtain ⟨hs, rfl⟩ := Prod.mk.inj hshown
  rw [Nat.zero_add, Nat.zero_add] at heq
  exact ⟨calls', r', s₁', hrun', heq, hs⟩

theorem asked_handleAll_of_edited_mistimed :
    ∃ calls r s asked calls' r' s', Journal.watch Action.asked?
        [.setMode .splitVerify, .line .modem "a", .timer ⟨0⟩, .line .model "A", .timer ⟨0⟩] =
          .done calls (r, (s, asked)) ∧
      Journal.watch Action.asked?
        [.timer ⟨7⟩, .setMode .splitVerify, .line .modem "a", .line .model "A", .timer ⟨0⟩,
          .timer ⟨0⟩] = .done calls' (r', (s', asked)) ∧
      OnceGone calls ∧ r.moreStale 2 = r'.moreStale 1 := by
  have hrun := Outcome.eq_done (o := Journal.watch Action.asked?
    [.setMode .splitVerify, .line .modem "a", .timer ⟨0⟩, .line .model "A", .timer ⟨0⟩])
    (by decide +kernel)
  obtain ⟨honce, hedit⟩ := asked_handleAll_of_edited Journal.host_answersBy _ _ hrun
  obtain ⟨calls', r', s', hrun', heq, -⟩ := hedit
    [.timer ⟨7⟩, .setMode .splitVerify, .line .modem "a", .line .model "A", .timer ⟨0⟩,
      .timer ⟨0⟩] 1 2
    (.add _ _ (by decide +kernel) <| .keep _ _ _ <| .keep _ _ _ <|
      .drop _ _ _ (by decide +kernel) <| .keep _ _ _ <| .keep _ _ _ <|
      .add _ _ (by decide +kernel) <| .nil _)
  exact ⟨_, _, _, _, calls', r', s', hrun, hrun', honce, heq⟩

end Relay

end ModemRelay
