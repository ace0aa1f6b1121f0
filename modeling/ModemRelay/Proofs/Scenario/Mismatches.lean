import ModemRelay.Proofs.Scenario.Verification

/-!
# When answers are found to differ

A modem answer that comes after its exchange has timed out is kept, and the next model answer is
compared with it. From then on every answer is compared with that to an earlier command. So the two
sides may be found to differ although they answer all commands alike: no mismatch is reported
exactly where the model answers that the modem is in time for are the first of all answers
(`mismatches_eq_zero_iff_isPrefix`).
-/

namespace ModemRelay.Scenario
open Simulation Relay

variable {timeout : Duration} {answer? : Endpoint → String → Option String}
  {commands : List String} {r r' : Relay} {σ σ' : Scene} {d : Due}
  {judged waiting : List (Duration × String)}

/-- What has been reported at some time in a session: the model answers `judged` have been judged,
and the others find no modem answer that is left over. -/
structure Reported (timeout : Duration) (judged waiting : List (Duration × String)) (σ : Scene) :
    Prop where
  models : σ.arrivals .model = judged ++ waiting
  failures : σ.failures = (pairing timeout judged (σ.arrivals .modem)).filterMap (·.failure?)
  unused : waiting = [] ∨ leftover timeout judged (σ.arrivals .modem) = []

theorem Reported.mismatches (h : Reported timeout judged waiting σ) :
    σ.failures.countP (!·.isTimeout) = 0 ↔
      inTime timeout (σ.arrivals .model) (σ.arrivals .modem) <+:
        (σ.arrivals .modem).map (·.2) := by
  have hinTime : inTime timeout (judged ++ waiting) (σ.arrivals .modem) =
      inTime timeout judged (σ.arrivals .modem) := by
    rcases h.unused with rfl | hleft
    · rw [List.append_nil]
    · exact inTime_append hleft
  rw [h.failures, mismatches_pairing, h.models, hinTime]

namespace Verifies

theorem reported (h : Verifies timeout answer? commands r σ) :
    ∃ judged waiting, Reported timeout judged waiting σ := by
  obtain ⟨l, hl⟩ := h.ledger
  obtain ⟨hpairing, hleft⟩ := hl.judged_arrivals
  refine ⟨l.judged, l.waiting, hl.models.symm, ?_, ?_⟩
  · rw [hpairing]
    exact hl.failures
  · rw [hleft]
    exact hl.balanced.oneSided

/-- The modem answers that have come are the first of its answers to the commands. -/
theorem arrivals_isPrefix (h : Verifies timeout answer? commands r σ) :
    (σ.arrivals .modem).map (·.2) <+: commands.filterMap (answer? .modem) :=
  h.consulted.arrivals_isPrefix h.serves.commands

theorem mode?_eq_none (h : Verifies timeout answer? commands r σ) {agenda : Agenda}
    (hp : σ.agenda.popNext = some (d, agenda)) : d.event.mode? = none := by
  have hmodes := h.modes
  rw [Agenda.lane_popNext hp, List.append_eq_nil_iff, Option.toList_eq_nil_iff,
    Option.map_eq_none_iff] at hmodes
  exact hmodes.1

/-- A session that stops half way through a turn has reported nothing in it. -/
theorem halt (h : Verifies timeout answer? commands r σ) (hh : Halt answer? r σ d r' σ') :
    σ'.arrivals .modem = σ.arrivals .modem ∧
      ∃ judged waiting, Reported timeout judged waiting σ' := by
  have hs := h.serves.world.agenda
  cases hh with
  | @onLine agenda r₁ before after target σ₁ line hp hm hne hacts deliveries =>
    obtain ⟨⟨l, hd⟩, hnone⟩ := hm.of_send h.mode (h.mode?_eq_none hp)
      (List.mem_append_right before List.mem_cons_self) hne
    rw [List.filterMap_append, List.append_eq_nil_iff] at hnone
    have harrivals : ∀ e, Endpoint.modemManager ≠ e →
        (σ₁.record (.sent target line)).arrivals e = σ.arrivals e := by
      intro e he
      rw [Scene.arrivals_record, hacts.arrivals_turn hs hp, hd]
      simp [Trace.received?, he]
    have hmodels := harrivals .model nofun
    have hmodems := harrivals .modem nofun
    obtain ⟨judged, waiting, hr⟩ := h.reported
    refine ⟨hmodems, judged, waiting, hmodels.trans hr.models, ?_, ?_⟩
    · rw [hmodems, Scene.failures_record, hacts.failures_turn, hnone.1, ← hr.failures]
      simp [Trace.failure?]
    · rw [hmodems]
      exact hr.unused
  | @onTimer agenda r₁ before after σ₁ delay x hp hm hacts deliveries =>
    obtain ⟨line, hd, hactions, -, hfirst, -⟩ := hm.of_arm
      (List.mem_append_right before List.mem_cons_self)
    obtain rfl : before = [] := by
      cases before with
      | nil => rfl
      | cons a before => simp at hactions
    -- the answer that would wait finds no modem answer kept, or it would not wait
    have harrivals : σ₁.arrivals .modem = σ.arrivals .modem := by
      rw [hacts.arrivals_turn hs hp, hd]
      exact List.append_nil _
    obtain ⟨l, hl⟩ := h.ledger
    obtain ⟨hpairing, hleft⟩ := hl.judged_arrivals
    have hkept := hl.kept
    rw [PendingQueue.modemValues_of_modelFirst hfirst, List.map_eq_nil_iff] at hkept
    refine ⟨harrivals, l.judged, l.waiting ++ [(d.time, line)], ?_, ?_, .inr ?_⟩
    · change σ₁.arrivals .model = _
      rw [hacts.arrivals_turn hs hp, hd, ← hl.models, List.append_assoc]
      rfl
    · change σ₁.failures = (pairing timeout l.judged (σ₁.arrivals .modem)).filterMap _
      rw [harrivals, hpairing, hacts.failures_turn, ← hl.failures]
      exact List.append_nil _
    · change leftover timeout l.judged (σ₁.arrivals .modem) = []
      rw [harrivals, hleft, hkept]

end Verifies

/-- **Two sides that answer alike are found to differ, unless the model answers that the modem is in
time for are the first of all answers.** This holds at the end of each run, also of one that stops
early. -/
theorem mismatches_eq_zero_iff_isPrefix (s : Scenario) {modem : Responder.Config}
    (hmodem : s.modem = some modem) (hmode : s.mode = .splitVerify)
    (hs : ∀ step ∈ s.steps, step.isCommand = true)
    (hsame : ∀ line ∈ s.commands, modem.response? line = s.model.response? line)
    (ha : ∀ line ∈ s.commands, (s.model.response? line).isSome = true) :
    s.play.state.failures.mismatches = 0 ↔
      inTime s.relay.responseTimeout (s.play.state.scene.arrivals .model)
          (s.play.state.scene.arrivals .modem) <+:
        s.commands.filterMap s.model.response? := by
  have ha' : ∀ line ∈ s.commands,
      (s.model.response? line).isSome = true ∧ (modem.response? line).isSome = true :=
    fun line hline => ⟨ha line hline, by rw [hsame line hline]; exact ha line hline⟩
  have hanswers : s.commands.filterMap (s.answer? .modem) =
      s.commands.filterMap s.model.response? := by
    rw [answer?_modem hmodem]
    exact List.filterMap_congr hsame
  have hfound : ∃ judged waiting,
      Reported s.relay.responseTimeout judged waiting s.play.state.scene ∧
        (s.play.state.scene.arrivals .modem).map (·.2) <+:
          s.commands.filterMap s.model.response? := by
    cases hplay : s.play with
    | done n session =>
      have h := play_verifies s hmodem hmode hs ha' hplay
      obtain ⟨judged, waiting, hr⟩ := h.reported
      exact ⟨judged, waiting, hr, hanswers ▸ h.arrivals_isPrefix⟩
    | overflow session =>
      obtain ⟨r, σ, d, h, hh⟩ := halt_verifies s hmodem hmode hs ha' hplay
      obtain ⟨hmodems, judged, waiting, hr⟩ := h.halt hh
      exact ⟨judged, waiting, hr, hanswers ▸ hmodems ▸ h.arrivals_isPrefix⟩
  obtain ⟨judged, waiting, hr, hfirst⟩ := hfound
  rw [FailureLog.mismatches, Session.toList_failures, hr.mismatches]
  constructor
  · exact fun hprefix => hprefix.trans hfirst
  · exact fun hprefix => List.prefix_of_prefix_length_le hprefix hfirst
      (by rw [List.length_map]; exact length_inTime_le)

/-- A session with two commands and with sides that answer them in the same way, of which the modem
is too late each time. -/
def belated (answers : Responder.Config) : Scenario where
  mode := .splitVerify
  relay := { responseTimeout := .ofMillis 10 }
  modem := some { answers with latency := 50 }
  model := answers
  steps := [.command 0 "ATI", .command 100 "AT+CSQ"]

/-- The shift goes unnoticed where both commands have the same answer. -/
theorem mismatches_eq_zero_iff_isPrefix_belated :
    (belated { fallback := some "OK" }).play.state.failures.toList = [.timeout "OK"] ∧
      (belated { fallback := some "OK" }).play.state.failures.mismatches = 0 := by
  have hevaluate := (belated { fallback := some "OK" }).evaluate_eq
  refine ⟨hevaluate ▸ by decide +kernel, ?_⟩
  refine (mismatches_eq_zero_iff_isPrefix _ rfl rfl (by decide) (by decide +kernel)
    (by decide +kernel)).mpr ?_
  rw [← hevaluate]
  decide +kernel

/-- Sides that answer all commands in the same way may be found to differ. -/
theorem not_forall_mismatches_eq_zero :
    ¬∀ (s : Scenario) (modem : Responder.Config), s.modem = some modem → s.mode = .splitVerify →
      (∀ step ∈ s.steps, step.isCommand = true) → modem.responses = s.model.responses →
      modem.fallback = s.model.fallback →
      (∀ line ∈ s.commands, (s.model.response? line).isSome = true) →
      s.play.state.failures.mismatches = 0 := by
  intro h
  let answers : Responder.Config :=
    { responses := Std.ExtTreeMap.ofList [("ATI", "Telit"), ("AT+CSQ", "+CSQ: 17,0")] }
  have hnone := h (belated answers) { answers with latency := 50 } rfl rfl (by decide) rfl rfl
    (by decide +kernel)
  rw [← evaluate_eq] at hnone
  revert hnone
  decide +kernel

end ModemRelay.Scenario
