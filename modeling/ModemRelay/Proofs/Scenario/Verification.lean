import ModemRelay.Proofs.Scenario.Entries
import ModemRelay.Proofs.Scenario.Transparency

/-!
# What the relay finds out

In a session in which the answers of both sides are compared throughout, what is reported and
counted follows from the times at which the answers are received (`Verifies`). Whether the modem
keeps to the response window is told exactly (`timeouts_eq_zero_iff_inTime`), the last instant of
the window included.
-/

namespace ModemRelay.Scenario
open Simulation Relay

/-- A session that verifies the modem's answers. -/
structure Verifies (timeout : Duration) (answer? : Endpoint → String → Option String)
    (commands : List String) (r : Relay) (σ : Scene) : Prop where
  serves : Serves answer? commands r σ
  config : r.config.responseTimeout = timeout
  mode : r.mode = .splitVerify
  modes : σ.agenda.lane Input.mode? = []
  consulted : σ.Consulted answer? .modem
  ledger : ∃ l : Ledger, l.Records timeout r σ

namespace Verifies

variable {timeout : Duration} {answer? : Endpoint → String → Option String}
  {commands : List String} {r r' : Relay} {σ σ' : Scene} {d : Due}

/-- The model has given no more answers than the modem gives. -/
theorem enough (hs : Serves answer? commands r σ) (hc : σ.Consulted answer? .modem)
    (ha : ∀ line ∈ commands,
      (answer? .model line).isSome = true ∧ (answer? .modem line).isSome = true) :
    (σ.arrivals .model).length ≤ (σ.stream .modem).length := by
  have hsaid : ∀ line ∈ (σ.arrivals .modemManager).map (·.2), line ∈ commands := by
    intro line hline
    rw [← hs.commands, Scene.stream, List.map_append]
    exact List.mem_append_left _ hline
  rw [hc.length_stream fun line hline => (ha line (hsaid line hline)).2,
    ← hs.consulted.length_stream fun line hline => (ha line (hsaid line hline)).1, Scene.stream,
    List.length_append]
  exact Nat.le_add_right _ _

theorem turn (h : Verifies timeout answer? commands r σ)
    (hc : ∀ line, answer? .modemManager line = none)
    (ha : ∀ line ∈ commands,
      (answer? .model line).isSome = true ∧ (answer? .modem line).isSome = true)
    (ht : Turn answer? r σ d r' σ') : Verifies timeout answer? commands r' σ' := by
  have hserves := h.serves.turn hc ht
  have hw := h.serves.world
  cases ht with
  | @intro agenda r₁ actions σ₁ hp hm hacts deliveries =>
    have hmodes := hw.modes_acts hp hm hacts
    rw [h.modes, eq_comm, List.append_eq_nil_iff, Option.toList_eq_nil_iff,
      Option.map_eq_none_iff] at hmodes
    obtain ⟨hnext, hmodes⟩ := hmodes
    have hconsulted := h.consulted.acts hw hp hm hacts (hm.lines_modem h.mode hnext)
    have henough := enough hserves hconsulted.handled ha
    rw [Scene.arrivals_handled, Scene.stream_handled] at henough
    obtain ⟨l, hl⟩ := h.ledger
    obtain ⟨l', hl'⟩ :=
      hl.acts hw hp h.mode h.config hnext h.consulted.promised hm hacts henough
    refine ⟨hserves, ?_, (hm.mode_eq hnext).trans h.mode, ?_, hconsulted.handled, l',
      hl'.handled deliveries⟩
    · exact (congrArg _ hm.config_eq).trans h.config
    · rw [Scene.agenda_handled, hmodes]

/-- **At the end every model answer has been judged**, and a modem answer still waits only where it
is left over. -/
theorem judged_eq (h : Verifies timeout answer? commands r σ) (he : σ.agenda.size = 0) :
    σ.failures =
        (pairing timeout (σ.arrivals .model) (σ.arrivals .modem)).filterMap (·.failure?) ∧
      r.tally.matched =
        (pairing timeout (σ.arrivals .model) (σ.arrivals .modem)).countP (·.agrees) ∧
      r.pending.modelValues = [] ∧
      r.pending.modemValues =
        (leftover timeout (σ.arrivals .model) (σ.arrivals .modem)).map (·.2) := by
  obtain ⟨l, hl⟩ := h.ledger
  have htimers : l.timers = [] := by
    rw [hl.timers, Scene.timers, Agenda.lane_of_size he]
    rfl
  have hwaiting : l.waiting = [] := by
    have hlen := hl.balanced.length_timers
    rw [htimers] at hlen
    exact List.eq_nil_of_length_eq_zero hlen.symm
  have hmodels := hl.models
  rw [hwaiting, List.append_nil] at hmodels
  obtain ⟨hpairing, hleft⟩ := hl.judged_arrivals
  rw [← hmodels, hpairing, hleft, hl.kept, ← hl.waiting, hwaiting]
  exact ⟨hl.failures, hl.matched, rfl, rfl⟩

/-- At the end each side has answered all commands, in their order. -/
theorem answers_eq (h : Verifies timeout answer? commands r σ) (he : σ.agenda.size = 0) :
    (σ.arrivals .model).map (·.2) = commands.filterMap (answer? .model) ∧
      (σ.arrivals .modem).map (·.2) = commands.filterMap (answer? .modem) :=
  ⟨h.serves.consulted.answers_eq h.serves.commands he,
    h.consulted.answers_eq h.serves.commands he⟩

end Verifies

/-- Whether a step is a command of the client. -/
def Step.isCommand : Step → Bool
  | command .. => true
  | _ => false

/-- The start of a session that compares the answers of both sides. -/
theorem Start.verifies {s : Scenario} {r : Relay} {σ : Scene} (h : s.Start r σ)
    (hmodem : s.modem.isSome = true) (hmode : s.mode = .splitVerify)
    (hs : ∀ step ∈ s.steps, step.isCommand = true) :
    Verifies s.relay.responseTimeout s.answer? s.commands r σ := by
  have hnone : σ.coming .modem = [] := by
    refine h.coming_eq_nil fun step hstep line hevent => ?_
    have hcommand := hs step hstep
    cases step <;> cases hevent
    cases hcommand
  have hkeeps : ∀ step ∈ s.steps, step.keepsModel := by
    intro step hstep
    have hcommand := hs step hstep
    cases step <;> cases hcommand
    trivial
  have htimers : σ.timers = [] := by
    have htagged := h.world.timers
    rw [PendingQueue.timers, h.pending] at htagged
    exact List.map_eq_nil_iff.mp htagged
  refine ⟨h.serves (by simp [hmode]) hkeeps, congrArg _ h.config,
    h.mode_eq_splitVerify hmodem hmode, ?_, h.consulted hnone, { now := σ.agenda.now }, ?_⟩
  · refine List.eq_nil_iff_forall_not_mem.mpr fun x hx => ?_
    rw [h.agenda] at hx
    obtain ⟨step, hstep, hk⟩ := lane_postAll hx
    have hcommand := hs step hstep
    cases step <;> cases hk
    cases hcommand
  · refine ⟨⟨rfl, .inl rfl, Nat.le_refl _, rfl, by simp, by simp⟩, ?_, hnone.symm, ?_, rfl, ?_,
      ?_, ?_, h.failures, ?_⟩
    · rw [Scene.stream, h.arrivals, hnone]
      rfl
    · rw [htimers]
      rfl
    · exact (h.arrivals _).symm
    · exact h.modelValues.symm
    · exact h.modemValues.symm
    · rw [h.tally]
      rfl

/-! ## The response window -/

/-- The failure that is due where the answers of both sides to a command are compared. -/
def difference? (modem model : Responder.Config) (line : String) : Option Failure :=
  match modem.response? line, model.response? line with
  | some theirs, some ours => if theirs = ours then none else some (.mismatch theirs ours)
  | _, _ => none

/-- What comes of comparing the answers to each command with each other. -/
private theorem compare_all {modem model : Responder.Config} {commands : List String}
    (ha : ∀ line ∈ commands,
      (model.response? line).isSome = true ∧ (modem.response? line).isSome = true) :
    let js := List.zipWith (fun ours theirs => Judgement.mk ours (some theirs))
      (commands.filterMap model.response?) (commands.filterMap modem.response?)
    js.filterMap (·.failure?) = commands.filterMap (difference? modem model) ∧
      js.countP (·.agrees) =
        commands.countP fun line => modem.response? line = model.response? line := by
  induction commands with
  | nil => exact ⟨rfl, rfl⟩
  | cons line rest ih =>
    rw [List.forall_mem_cons] at ha
    obtain ⟨ours, hours⟩ := Option.isSome_iff_exists.mp ha.1.1
    obtain ⟨theirs, htheirs⟩ := Option.isSome_iff_exists.mp ha.1.2
    obtain ⟨hfailures, hmatched⟩ := ih ha.2
    have hfailure : (Judgement.mk ours (some theirs)).failure? = difference? modem model line := by
      rw [difference?, hours, htheirs]
      rfl
    have hagrees : (Judgement.mk ours (some theirs)).agrees =
        decide (modem.response? line = model.response? line) := by
      rw [hours, htheirs]
      rfl
    rw [List.filterMap_cons_some hours, List.filterMap_cons_some htheirs, List.zipWith_cons_cons]
    constructor
    · rw [List.filterMap_cons, List.filterMap_cons, hfailure, hfailures]
    · rw [List.countP_cons, List.countP_cons, hagrees, hmatched]

theorem answer?_model (s : Scenario) : s.answer? .model = s.model.response? := rfl

theorem answer?_modem {s : Scenario} {modem : Responder.Config} (h : s.modem = some modem) :
    s.answer? .modem = modem.response? := by
  funext line
  rw [answer?, h]
  rfl

section Play

variable (s : Scenario) {modem : Responder.Config} {session : Session}
  (hmodem : s.modem = some modem) (hmode : s.mode = .splitVerify)
  (hs : ∀ step ∈ s.steps, step.isCommand = true)
  (ha : ∀ line ∈ s.commands,
    (s.model.response? line).isSome = true ∧ (modem.response? line).isSome = true)

include hmodem hmode hs ha

theorem play_verifies {n : Nat} (hplay : s.play = .done n session) :
    Verifies s.relay.responseTimeout s.answer? s.commands session.relay session.scene := by
  refine play_done (fun h => h.serves.world.relay) (fun h => h.turn (fun _ => rfl) ?_)
    (fun h => h.verifies (by simp [hmodem]) hmode hs) hplay
  rw [answer?_modem hmodem]
  exact ha

theorem halt_verifies (hplay : s.play = .overflow session) :
    ∃ r σ d, Verifies s.relay.responseTimeout s.answer? s.commands r σ ∧
      Halt s.answer? r σ d session.relay session.scene := by
  refine play_overflow (fun h => h.serves.world.relay) (fun h => h.turn (fun _ => rfl) ?_)
    (fun h => h.verifies (by simp [hmodem]) hmode hs) hplay
  rw [answer?_modem hmodem]
  exact ha

end Play

/-- **The relay tells exactly whether the modem keeps to the response window**, an answer at the
last instant being in time. Where it does, what is reported are the differences between the two
answers to each command, in the order of the commands, and nothing is left pending. -/
theorem timeouts_eq_zero_iff_inTime (s : Scenario) {modem : Responder.Config} {n : Nat}
    {session : Session} (hmodem : s.modem = some modem) (hmode : s.mode = .splitVerify)
    (hs : ∀ step ∈ s.steps, step.isCommand = true)
    (ha : ∀ line ∈ s.commands,
      (s.model.response? line).isSome = true ∧ (modem.response? line).isSome = true)
    (hplay : s.play = .done n session) (hend : session.agenda.size = 0) :
    (session.scene.arrivals .model).length = s.commands.length ∧
      (session.scene.arrivals .modem).length = s.commands.length ∧
      (session.failures.timeouts = 0 ↔
        ∀ (i : Nat) (a b : Duration × String), (session.scene.arrivals .model)[i]? = some a →
          (session.scene.arrivals .modem)[i]? = some b →
          b.1.nanos ≤ a.1.nanos + s.relay.responseTimeout.nanos) ∧
      (session.failures.timeouts = 0 →
        session.failures.toList = s.commands.filterMap (difference? modem s.model) ∧
          session.relay.stats.tally.matched =
            s.commands.countP (fun line => modem.response? line = s.model.response? line) ∧
          session.relay.pending.size = 0) := by
  have h := play_verifies s hmodem hmode hs ha hplay
  obtain ⟨hfailures, hmatched, hwaiting, hkept⟩ := h.judged_eq hend
  obtain ⟨hmodels, hmodems⟩ := h.answers_eq hend
  rw [answer?_model] at hmodels
  rw [answer?_modem hmodem] at hmodems
  have hlen : (session.scene.arrivals .model).length = s.commands.length := by
    have hlen := congrArg List.length hmodels
    rwa [List.length_map, List.filterMap_length_eq_length.mpr fun line hline =>
      (ha line hline).1] at hlen
  have hlen' : (session.scene.arrivals .modem).length = s.commands.length := by
    have hlen := congrArg List.length hmodems
    rwa [List.length_map, List.filterMap_length_eq_length.mpr fun line hline =>
      (ha line hline).2] at hlen
  have hle := Nat.le_of_eq (hlen.trans hlen'.symm)
  have htimeouts : session.failures.timeouts = 0 ↔
      ∀ x ∈ (session.scene.arrivals .model).zip (session.scene.arrivals .modem),
        x.2.1.nanos ≤ x.1.1.nanos + s.relay.responseTimeout.nanos := by
    rw [FailureLog.timeouts, Session.toList_failures, hfailures, Judgement.timeouts_eq_zero_iff,
      pairing_modem_ne_none hle]
  refine ⟨hlen, hlen', ?_, fun h₀ => ?_⟩
  · rw [htimeouts]
    constructor
    · intro hzip i a b ha hb
      exact hzip (a, b) (List.mem_of_getElem? (List.getElem?_zip_eq_some.mpr ⟨ha, hb⟩))
    · rintro hindex ⟨a, b⟩ hx
      obtain ⟨i, hi⟩ := List.mem_iff_getElem?.mp hx
      obtain ⟨ha, hb⟩ := List.getElem?_zip_eq_some.mp hi
      exact hindex i a b ha hb
  · obtain ⟨hpairing, hleft⟩ := pairing_of_inTime hle (htimeouts.mp h₀)
    rw [hmodels, hmodems] at hpairing
    rw [hpairing] at hfailures hmatched
    obtain ⟨hdifferences, hagreed⟩ := compare_all ha
    refine ⟨?_, hmatched.trans hagreed, ?_⟩
    · rw [Session.toList_failures, hfailures]
      exact hdifferences
    · rw [hleft, hlen, ← hlen', List.drop_length, List.map_nil] at hkept
      rw [PendingQueue.size_eq, h.serves.world.relay.toList_eq_nil hwaiting hkept]
      rfl

/-- A session with a modem that answers each of three overlapping commands at the last instant, and
one of them in its own way. -/
def punctual : Scenario where
  mode := .splitVerify
  relay := { responseTimeout := .ofMillis 10 }
  modem := some
    { latency := 12
      responses := Std.ExtTreeMap.ofList [("ATI", "Telit")]
      fallback := some "OK" }
  model :=
    { latency := 2
      responses := Std.ExtTreeMap.ofList [("ATI", "Telit"), ("AT+CSQ", "+CSQ: 17,0")]
      fallback := some "OK" }
  steps := [.command 3 "AT+CSQ", .command 0 "ATI", .command 3 "ATZ"]

theorem timeouts_eq_zero_iff_inTime_punctual :
    ∃ n session, punctual.play = .done n session ∧ session.agenda.size = 0 ∧
      (session.scene.arrivals .model).map (·.1.millis) = [2, 5, 5] ∧
      (session.scene.arrivals .modem).map (·.1.millis) = [12, 15, 15] ∧
      (∀ (i : Nat) (a b : Duration × String), (session.scene.arrivals .model)[i]? = some a →
        (session.scene.arrivals .modem)[i]? = some b →
        b.1.nanos ≤ a.1.nanos + punctual.relay.responseTimeout.nanos) ∧
      session.failures.toList = [.mismatch "OK" "+CSQ: 17,0"] ∧
      session.relay.stats.tally.matched = 2 ∧ session.relay.pending.size = 0 := by
  obtain ⟨n, hplay⟩ := punctual.play_eq_done (by decide +kernel)
  have hend : punctual.evaluate.state.agenda.size = 0 := by decide +kernel
  have htimeouts : punctual.evaluate.state.failures.timeouts = 0 := by decide +kernel
  obtain ⟨-, -, hiff, hfound⟩ := timeouts_eq_zero_iff_inTime punctual rfl rfl (by decide)
    (by decide +kernel) hplay hend
  obtain ⟨hfailures, hmatched, hpending⟩ := hfound htimeouts
  exact ⟨n, _, hplay, hend, by decide +kernel, by decide +kernel, hiff.mp htimeouts,
    hfailures.trans (by decide +kernel), hmatched.trans (by decide +kernel), hpending⟩

end ModemRelay.Scenario
