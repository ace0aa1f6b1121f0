import ModemRelay.Proofs.Relay.Balance

/-!
# What the modem owes

A change of mode leaves the modem owing an answer to each exchange that it drains with an answer of
the model (`Move.owed_of_leave`). From then on each line of the modem pays one of these off and is
let go of, whichever of the two other modes it comes in, and only then are lines dropped or passed
on (`Move.repays`, `charged_handleAll`). Without a drain nothing is owed, and no line is let go of.
-/

namespace ModemRelay.Relay

namespace Move

variable {r r' : Relay} {timer : TimerHandle} {input : Input} {actions : List Action}
  {line : String}

/-- A change of mode leaves the modem owing what the model has answered alone. -/
theorem owed_of_leave {next : Mode} (m : Move r timer (.setMode next) r' actions) (h : r.Sound)
    (hm : r.mode = .splitVerify) (hn : next ≠ .splitVerify) :
    r'.mode ≠ .splitVerify ∧ r'.owedModemLines = r.abandoned ∧
      r'.tally.lateModemLines = r.tally.lateModemLines := by
  cases m with
  | modeRefused _ hh => simp [h.attached (by simp [hm])] at hh
  | modeKept => exact (hn hm).elim
  | modeTaken =>
    refine ⟨hn, ?_, rfl⟩
    rw [enter, if_neg hn, h.settled hm, Nat.zero_add]

/-- **Where answers are not compared, each line of the modem pays off one that it owes.** It counts
as late as long as one is owed. -/
theorem repays (m : Move r timer input r' actions) (h : r.Sound) (hm : r.mode ≠ .splitVerify)
    (hn : input ≠ .setMode .splitVerify) :
    r'.mode ≠ .splitVerify ∧
      r'.owedModemLines = r.owedModemLines - (input.line? .modem).toList.length ∧
      r'.tally.lateModemLines =
        r.tally.lateModemLines + min r.owedModemLines (input.line? .modem).toList.length := by
  cases m with
  | toBoth hr | modemPaired hr | modemFirst hr | modelPaired hr | modelFirst hr | timeout hr =>
    exact (hm hr).elim
  | toModel | toModem | modelRelayed | modelDropped | stale | modeRefused | modeKept =>
    exact ⟨hm, rfl, by simp [dropLine]⟩
  | modemLate _ ho =>
    refine ⟨hm, rfl, ?_⟩
    rw [Input.line?_line, if_pos rfl, Option.toList_some, List.length_singleton,
      Nat.min_eq_right ho]
    rfl
  | modemDropped _ ho | modemRelayed _ ho =>
    exact ⟨hm, by simp [ho, dropLine], by simp [ho, dropLine]⟩
  | @modeTaken next hne hh =>
    have hsplit : next ≠ .splitVerify := fun heq => hn (congrArg _ heq)
    have hempty : r.abandoned = 0 := by rw [abandoned, h.idle hm, List.countP_nil]
    refine ⟨hsplit, ?_, by simp [enter]⟩
    rw [enter, if_neg hsplit, hempty]
    rfl

/-- Where nothing is owed and nothing is drained, no line of the modem counts as late. -/
theorem solvent (m : Move r timer input r' actions) (ho : r.owedModemLines = 0)
    (hd : r'.mode ≠ r.mode → r.pending.toList = []) :
    r'.owedModemLines = 0 ∧ r'.tally.lateModemLines = r.tally.lateModemLines := by
  cases m with
  | modemLate _ hpos => omega
  | modemPaired | modelPaired => exact ⟨ho, lateModemLines_compared ..⟩
  | modeTaken hne =>
    refine ⟨?_, rfl⟩
    rw [enter, abandoned, hd hne, ho]
    exact ite_self _
  | _ => exact ⟨ho, rfl⟩

end Move

/-- What becomes of a line of the modem that comes after `come` others since the modem has been left
owing `owed` answers: the relay before and after it, and what is asked for. -/
structure Charged (owed come : Nat) (r : Relay) (line : String) (r' : Relay)
    (asked : List Action) : Prop where
  /-- The line pays off an answer that is owed, and nothing else comes of it. -/
  late : come < owed → asked = [] ∧ r' = { r with
    owedModemLines := owed - come - 1
    tally.lateModemLines := r.tally.lateModemLines + 1 }
  relayed : owed ≤ come → r.mode = .passThrough →
    asked = [.send .modemManager line] ∧ r' = { r with deliveries := r'.deliveries }
  dropped : owed ≤ come → r.mode = .wardModel →
    asked = [] ∧ r' = { r with tally.droppedLines := r.tally.droppedLines + 1 }

variable {σ : Type} {host : Host σ} {r r' : Relay} {s s' : σ} {asked asked' : List Action}
  {inputs : List Input} {calls : List Call} {line : String} {owed come : Nat}

/-- A line of the modem is charged to what is owed. -/
theorem Sound.charged (h : r.Sound) (hm : r.mode ≠ .splitVerify)
    (ho : r.owedModemLines = owed - come)
    (hcall : handle (host.watched Action.asked?) (.line .modem line) r (s, asked) =
      .done () (r', (s', asked'))) :
    ∃ new, asked' = asked ++ new ∧ Charged owed come r line r' new := by
  obtain ⟨r₁, actions, deliveries, hmove, hr, hasked, hkept⟩ :=
    h.move_watched Action.outward_asked? hcall
  refine ⟨_, hasked, ?_⟩
  cases hmove with
  | modemLate _ hpos =>
    refine ⟨fun _ => ⟨rfl, ?_⟩, fun hle => by omega, fun hle => by omega⟩
    rw [hr, hkept rfl, ← ho]
    rfl
  | modemRelayed hp hzero =>
    refine ⟨fun hlt => by omega, fun _ _ => ⟨rfl, ?_⟩, fun _ hw => by simp [hp] at hw⟩
    rw [hr]
  | modemDropped hw hzero =>
    refine ⟨fun hlt => by omega, fun _ hp => by simp [hw] at hp, fun _ _ => ⟨rfl, ?_⟩⟩
    rw [hr, hkept rfl]
    rfl
  | modemPaired hs | modemFirst hs => exact (hm hs).elim

/-- Over calls that do not go back to comparing answers, the lines of the modem are charged to what
it owes. -/
theorem Sound.repays_handleAll (h : r.Sound) (hm : r.mode ≠ .splitVerify)
    (hn : .setMode .splitVerify ∉ inputs)
    (hrun : handleAll host inputs r s = .done calls (r', s')) :
    r'.Sound ∧ r'.mode ≠ .splitVerify ∧
      r'.owedModemLines = r.owedModemLines - (inputs.filterMap (·.line? .modem)).length ∧
      r'.tally.lateModemLines = r.tally.lateModemLines +
        min r.owedModemLines (inputs.filterMap (·.line? .modem)).length := by
  induction inputs generalizing r s calls with
  | nil =>
    cases hrun
    exact ⟨h, hm, rfl, by simp⟩
  | cons input rest ih =>
    obtain ⟨_, s₁, later, hcall, hrest, rfl⟩ := handleAll_cons_done hrun
    obtain ⟨timer, r₁, actions, deliveries, hmove, rfl⟩ := h.move_handle hcall
    obtain ⟨hfirst, hlater⟩ := List.ne_and_not_mem_of_not_mem_cons hn
    obtain ⟨hm₁, howed, hlate⟩ := hmove.repays h hm hfirst.symm
    obtain ⟨hs, hm', howed', hlate'⟩ :=
      ih ((hmove.sound h).deliver deliveries) hm₁ hlater hrest
    refine ⟨hs, hm', ?_, ?_⟩
    · rw [howed', howed, filterMap_cons_toList, List.length_append, Nat.sub_sub]
    · rw [hlate', hlate, howed, filterMap_cons_toList, List.length_append]
      omega

/-- Over calls that drain nothing, no line of the modem counts as late where none is owed. -/
theorem Sound.solvent_handleAll (h : r.Sound) (ho : r.owedModemLines = 0)
    (hrun : handleAll host inputs r s = .done calls (r', s'))
    (hd : ∀ c ∈ calls, c.drained = []) :
    ∀ c ∈ calls, c.after.tally.lateModemLines = c.before.tally.lateModemLines := by
  have hsolvent : (∀ c ∈ calls, c.drained = []) → r'.owedModemLines = 0 ∧
      ∀ c ∈ calls, c.after.tally.lateModemLines = c.before.tally.lateModemLines := by
    refine h.calls_invariant (I := fun past r _ => (∀ c ∈ past, c.drained = []) →
      r.owedModemLines = 0 ∧
        ∀ c ∈ past, c.after.tally.lateModemLines = c.before.tally.lateModemLines)
      ?_ (fun _ => ⟨ho, List.forall_mem_nil _⟩) hrun
    intro past r input r' s s' h hpast hcall hd
    obtain ⟨timer, r₁, actions, deliveries, hmove, rfl⟩ := h.move_handle hcall
    rw [List.forall_mem_append, List.forall_mem_singleton] at hd
    obtain ⟨ho, hlate⟩ := hpast hd.1
    obtain ⟨ho₁, hlate₁⟩ := hmove.solvent ho fun hne => (if_neg hne).symm.trans hd.2
    exact ⟨ho₁, List.forall_mem_append.mpr ⟨hlate, List.forall_mem_singleton.mpr hlate₁⟩⟩
  exact (hsolvent hd).2

/-- **A drain is paid off by the next lines of the modem.** Where answers are compared, let the mode
be changed while `owed` exchanges wait with an answer of the model. As long as answers are not
compared again, the first `owed` lines of the modem are let go of, whatever else happens and however
the mode is changed, and nothing else comes of them; each later one is passed on to the client or
dropped, as the mode has it. Where answers are compared, no line of the modem is let go of until
exchanges are drained. -/
theorem charged_handleAll (host : Host σ) (inputs : List Input) (config : Config)
    (hasModem : Bool) (s : σ) {s₁ : σ}
    (hrun : handleAll (host.watched Action.asked?) inputs (.new config hasModem) (s, []) =
      .done calls (r, (s₁, asked)))
    (hm : r.mode = .splitVerify) :
    (∀ next later calls' r₁ s₂ asked₁, next ≠ .splitVerify → .setMode .splitVerify ∉ later →
      handleAll (host.watched Action.asked?) (.setMode next :: later) r (s₁, asked) =
        .done calls' (r₁, (s₂, asked₁)) →
      let owed := r.pending.toList.countP (·.modelValue.isSome)
      let come := (later.filterMap (·.line? .modem)).length
      r₁.mode ≠ .splitVerify ∧
        r₁.tally.lateModemLines = r.tally.lateModemLines + min owed come ∧
        ∀ line r₂ s₃ asked₂, handle (host.watched Action.asked?) (.line .modem line) r₁
            (s₂, asked₁) = .done () (r₂, (s₃, asked₂)) →
          ∃ new, asked₂ = asked₁ ++ new ∧ Charged owed come r₁ line r₂ new) ∧
    ∀ later calls' state, handleAll (host.watched Action.asked?) later r (s₁, asked) =
        .done calls' state → (∀ c ∈ calls', c.drained = []) →
      ∀ c ∈ calls', c.after.tally.lateModemLines = c.before.tally.lateModemLines := by
  have h : r.Sound := sound_handleAll (.new config hasModem) hrun
  refine ⟨fun next later calls' r₁ s₂ asked₁ hn hlater hafter => ?_,
    fun later calls' state hafter => h.solvent_handleAll (h.settled hm) hafter⟩
  obtain ⟨_, _, rest, hcall, hrest, rfl⟩ := handleAll_cons_done hafter
  obtain ⟨timer, r₀, actions, deliveries, hmove, rfl⟩ := h.move_handle hcall
  obtain ⟨hm₀, howed, hlate⟩ := hmove.owed_of_leave h hm hn
  obtain ⟨h₁, hm₁, howed₁, hlate₁⟩ :=
    ((hmove.sound h).deliver deliveries).repays_handleAll hm₀ hlater hrest
  refine ⟨hm₁, ?_, fun line r₂ s₃ asked₂ => h₁.charged hm₁ ?_⟩
  · rw [hlate₁, hlate, howed, abandoned]
  · rw [howed₁, howed, abandoned]

/-- Two answers of the model wait for the modem when the relay is told to compare no longer. -/
def indebted : Outcome (Relay × Journal × List Action) (List Call) :=
  Journal.watch Action.asked? [.setMode .splitVerify, .line .model "A", .line .model "B"]

/-- One answer is paid off before the mode is changed once more, the other one after it. -/
def repaying : Outcome (Relay × Journal × List Action) (List Call) :=
  handleAll (Journal.host.watched Action.asked?)
    [.setMode .wardModel, .line .modem "a", .setMode .passThrough, .line .model "C",
      .line .modem "b"] indebted.state.1 indebted.state.2

theorem charged_handleAll_repaying :
    ∃ calls r s asked calls' r₁ s₁ asked₁ r₂ s₂ asked₂,
      indebted = .done calls (r, (s, asked)) ∧
      repaying = .done calls' (r₁, (s₁, asked₁)) ∧ r₁.tally.lateModemLines = 2 ∧
      handle (Journal.host.watched Action.asked?) (.line .modem "c") r₁ (s₁, asked₁) =
        .done () (r₂, (s₂, asked₂)) ∧ asked₂ = asked₁ ++ [.send .modemManager "c"] ∧
      ∀ calls₃ state, handleAll (Journal.host.watched Action.asked?) [.line .modem "a"] r
        (s, asked) = .done calls₃ state → (∀ c ∈ calls₃, c.drained = []) →
        ∀ c ∈ calls₃, c.after.tally.lateModemLines = c.before.tally.lateModemLines := by
  have hrun := Outcome.eq_done (o := indebted) (by decide +kernel)
  have hlater := Outcome.eq_done (o := repaying) (by decide +kernel)
  have hcall := Outcome.eq_done (o := handle (Journal.host.watched Action.asked?)
    (.line .modem "c") repaying.state.1 repaying.state.2) (by decide +kernel)
  obtain ⟨hpaid, hkept⟩ := charged_handleAll _ _ _ _ _ hrun (by decide +kernel)
  obtain ⟨-, hlate, hnext⟩ :=
    hpaid .wardModel _ _ _ _ _ (by decide) (by decide +kernel) hlater
  obtain ⟨new, hasked, hnew⟩ := hnext _ _ _ _ hcall
  obtain ⟨rfl, -⟩ := hnew.relayed (by decide +kernel) (by decide +kernel)
  exact ⟨_, _, _, _, _, _, _, _, _, _, _, hrun, hlater, hlate.trans (by decide +kernel), hcall,
    hasked, fun calls₃ state => hkept _ calls₃ state⟩

end ModemRelay.Relay
