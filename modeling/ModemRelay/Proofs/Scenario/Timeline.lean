import Mathlib.Data.List.Sort
import ModemRelay.Proofs.Simulation.Streams
import ModemRelay.Scenario.Report

/-!
# The timeline of a scenario

The steps of a scenario are scheduled before any of them happens, so that each has its position for
a key and the agenda orders them by time and, at equal times, by position. The commands in that
order (`Scenario.commands`) are all that the client is going to say.
-/

namespace ModemRelay.Scenario
open Simulation Relay

/-! ## Commands -/

/-- A command, when it is issued, in milliseconds, and which step issues it. -/
structure Issue where
  time : UInt64
  step : Nat
  line : String

/-- The order of commands: by time, then by step. -/
instance : LE Issue := ⟨fun a b => a.time < b.time ∨ a.time = b.time ∧ a.step ≤ b.step⟩

instance (a b : Issue) : Decidable (a ≤ b) :=
  inferInstanceAs (Decidable (a.time < b.time ∨ a.time = b.time ∧ a.step ≤ b.step))

/-- The commands among the steps, in the order of the steps. -/
def issues (steps : List Step) : List Issue :=
  steps.zipIdx.filterMap fun
    | (.command time line, position) => some ⟨time, position, line⟩
    | _ => none

/-- The commands of a scenario in the order of their times and, at equal times, of their steps. -/
def commands (s : Scenario) : List String := ((issues s.steps).insertionSort (· ≤ ·)).map (·.line)

example :
    commands { steps := [.command 5 "AT+CSQ", .setMode 0 .splitVerify, .command 5 "ATZ",
      .command 2 "ATI"] } = ["ATI", "AT+CSQ", "ATZ"] := by
  decide +kernel

namespace Issue

theorem le_def {a b : Issue} :
    a ≤ b ↔ a.time.toNat < b.time.toNat ∨ a.time.toNat = b.time.toNat ∧ a.step ≤ b.step := by
  rw [← UInt64.lt_iff_toNat_lt, UInt64.toNat_inj]
  rfl

instance : IsTrans Issue (· ≤ ·) where
  trans a b c hab hbc := by
    rw [le_def] at hab hbc ⊢
    omega

instance : Std.Total (α := Issue) (· ≤ ·) where
  total a b := by
    rw [le_def, le_def]
    omega

/-- The place that a command takes in the agenda. -/
def slot (i : Issue) : Slot := ⟨.ofMillis i.time, i.step⟩

theorem slot_lt {a b : Issue} (h : a ≤ b) (hne : a.step ≠ b.step) : a.slot < b.slot := by
  rw [le_def] at h
  simp only [Slot.lt_def, slot, Duration.nanos_ofMillis]
  omega

end Issue

theorem mem_issues {steps : List Step} {i : Issue} :
    i ∈ issues steps ↔ steps[i.step]? = some (.command i.time i.line) := by
  obtain ⟨time, position, line⟩ := i
  simp only [issues, List.mem_filterMap]
  constructor
  · rintro ⟨⟨step, n⟩, hmem, heq⟩
    cases step <;> cases heq
    exact List.mem_zipIdx_iff_getElem?.mp hmem
  · exact fun h => ⟨(.command time line, position), List.mem_zipIdx_iff_getElem?.mpr h, rfl⟩

theorem pairwise_issues_step (steps : List Step) : (issues steps).Pairwise (·.step ≠ ·.step) := by
  have hnodup : (steps.zipIdx.map Prod.snd).Nodup := by
    rw [List.zipIdx_map_snd]
    exact List.nodup_range' _
  refine List.Pairwise.filterMap _ ?_ (List.pairwise_map.mp hnodup)
  rintro ⟨step, n⟩ ⟨step', n'⟩ hne i hi i' hi'
  cases step <;> cases hi
  cases step' <;> cases hi'
  exact hne

theorem pairwise_issues (steps : List Step) :
    ((issues steps).insertionSort (· ≤ ·)).Pairwise (·.slot < ·.slot) := by
  have hsorted := List.pairwise_insertionSort (· ≤ ·) (issues steps)
  have hdistinct : ((issues steps).insertionSort (· ≤ ·)).Pairwise (·.step ≠ ·.step) :=
    (List.perm_insertionSort (· ≤ ·) _).symm.pairwise (pairwise_issues_step steps) Ne.symm
  exact (hsorted.and hdistinct).imp fun h => Issue.slot_lt h.1 h.2

/-! ## The agenda of the steps -/

/-- The time of a step, in milliseconds. -/
def Step.time : Step → UInt64
  | command time _ | inject time _ _ | setMode time _ => time

/-- What happens at a step. -/
def Step.event : Step → Input
  | command _ line => .line .modemManager line
  | inject _ source line => .line source line
  | setMode _ mode => .setMode mode

/-- An agenda with steps queued at their times. -/
def postAll (a : Agenda) (steps : List Step) : Agenda :=
  steps.foldl (fun a step => a.post (.ofMillis step.time) step.event) a

theorem sound_postAll {a : Agenda} (h : a.Sound) (hn : a.now = .zero) (steps : List Step) :
    (postAll a steps).Sound := by
  induction steps generalizing a with
  | nil => exact h
  | cons step rest ih => exact ih (h.post (hn ▸ Nat.zero_le _)) hn

theorem now_postAll (a : Agenda) (steps : List Step) : (postAll a steps).now = a.now := by
  induction steps generalizing a with
  | nil => rfl
  | cons step rest ih => exact ih (a.post (.ofMillis step.time) step.event)

/-- What is queued of the steps: each under its position, counted on from the next key. -/
theorem getElem?_postAll {a : Agenda} (h : a.Sound) (hn : a.now = .zero) {steps : List Step}
    {slot : Slot} {event : Input} :
    (postAll a steps).queue[slot]? = some event ↔
      a.queue[slot]? = some event ∨ ∃ (i : Nat) (step : Step), steps[i]? = some step ∧
        slot = ⟨.ofMillis step.time, a.nextKey + i⟩ ∧ event = step.event := by
  induction steps generalizing a with
  | nil => simp [postAll]
  | cons step rest ih =>
    change (postAll (a.post (.ofMillis step.time) step.event) rest).queue[slot]? = some event ↔ _
    rw [ih (h.post (hn ▸ Nat.zero_le _)) hn, Agenda.getElem?_post]
    have hnew := h.getElem?_nextKey (.ofMillis step.time)
    constructor
    · rintro (hq | ⟨i, step', hstep, rfl, rfl⟩)
      · split at hq
        · next hs =>
          cases hq
          exact .inr ⟨0, step, rfl, hs.symm, rfl⟩
        · exact .inl hq
      · refine .inr ⟨i + 1, step', hstep, ?_, rfl⟩
        simp only [Agenda.post, Slot.mk.injEq, true_and]
        omega
    · rintro (hq | ⟨i, step', hstep, rfl, rfl⟩)
      · refine .inl ((if_neg ?_).trans hq)
        rintro rfl
        rw [hnew] at hq
        cases hq
      · cases i with
        | zero =>
          cases hstep
          exact .inl (if_pos rfl)
        | succ i =>
          refine .inr ⟨i, step', hstep, ?_, rfl⟩
          simp only [Agenda.post, Slot.mk.injEq, true_and]
          omega

variable {steps : List Step}

theorem getElem?_postAll_new {slot : Slot} {event : Input} :
    (postAll {} steps).queue[slot]? = some event ↔
      ∃ step, steps[slot.key]? = some step ∧ slot.due = .ofMillis step.time ∧
        event = step.event := by
  rw [getElem?_postAll .new rfl]
  constructor
  · rintro (hq | ⟨i, step, hstep, rfl, rfl⟩)
    · simp at hq
    · exact ⟨step, by simpa using hstep, rfl, rfl⟩
  · rintro ⟨step, hstep, hdue, rfl⟩
    refine .inr ⟨slot.key, step, hstep, ?_, rfl⟩
    obtain ⟨due, key⟩ := slot
    simpa using hdue

/-- Nothing is queued but the steps. -/
theorem lane_postAll {kind : Input → Option β} {x : Slot × β}
    (hx : x ∈ (postAll {} steps).lane kind) : ∃ step ∈ steps, kind step.event = some x.2 := by
  obtain ⟨event, hq, hk⟩ := Agenda.mem_lane.mp hx
  obtain ⟨step, hstep, -, rfl⟩ := getElem?_postAll_new.mp hq
  exact ⟨step, List.mem_of_getElem? hstep, hk⟩

/-- Each step is queued. -/
theorem exists_mem_lane_postAll {kind : Input → Option β} {step : Step} {b : β}
    (hstep : step ∈ steps) (hk : kind step.event = some b) :
    ∃ slot, (slot, b) ∈ (postAll {} steps).lane kind := by
  obtain ⟨i, hi⟩ := List.mem_iff_getElem?.mp hstep
  refine ⟨⟨.ofMillis step.time, i⟩, Agenda.mem_lane.mpr ⟨step.event, ?_, hk⟩⟩
  exact getElem?_postAll_new.mpr ⟨step, hi, rfl, rfl⟩

/-- **The commands are queued in their order.** -/
theorem lane_commands (steps : List Step)
    (hc : ∀ step ∈ steps, ∀ line, step.event = .line .modemManager line →
      ∃ time, step = .command time line) :
    (postAll {} steps).lane (Input.line? .modemManager) =
      ((issues steps).insertionSort (· ≤ ·)).map fun i => (i.slot, i.line) := by
  refine Agenda.lane_eq ?_ fun slot line => ?_
  · exact List.pairwise_map.mpr (pairwise_issues steps)
  · simp only [List.mem_map, List.mem_insertionSort, mem_issues, Prod.mk.injEq,
      getElem?_postAll_new]
    constructor
    · rintro ⟨i, hi, rfl, rfl⟩
      exact ⟨_, ⟨_, hi, rfl, rfl⟩, Input.line?_eq_some.mpr rfl⟩
    · rintro ⟨event, ⟨step, hstep, hdue, rfl⟩, hline⟩
      have hevent := Input.line?_eq_some.mp hline
      obtain ⟨time, rfl⟩ := hc step (List.mem_of_getElem? hstep) line hevent
      refine ⟨⟨time, slot.key, line⟩, hstep, ?_, rfl⟩
      obtain ⟨due, key⟩ := slot
      exact congrArg (Slot.mk · key) hdue.symm

/-! ## The start of a session -/

theorem Step.schedule_eq (session : Session) (step : Step) :
    step.schedule session = session.schedule (.ofMillis step.time) step.event := by
  cases step <;> rfl

/-- At the start of time every step can be scheduled. -/
theorem schedule_done {session : Session} (hn : session.agenda.now = .zero) (step : Step) :
    step.schedule session = .done () (session.mapEnv ({ · with
      agenda := session.agenda.post (.ofMillis step.time) step.event })) := by
  have hdue : session.peers.env.now.add? (.ofMillis step.time) = some (.ofMillis step.time) := by
    have hzero : session.peers.env.now = .zero := hn
    rw [Duration.add?_eq_some_iff, hzero, Duration.nanos_zero, Nat.zero_add]
  have hs : session.peers.env.schedule (.ofMillis step.time) step.event = .done _ _ :=
    Environment.schedule_eq_done_iff.mpr ⟨_, hdue, rfl, rfl⟩
  rw [Step.schedule_eq, Session.schedule, hs]
  rfl

theorem scheduleAll_done {session : Session} (hn : session.agenda.now = .zero)
    (steps : List Step) :
    scheduleAll steps session =
      .done () (session.mapEnv ({ · with agenda := postAll session.agenda steps })) := by
  induction steps generalizing session with
  | nil => rfl
  | cons step rest ih =>
    rw [scheduleAll, schedule_done hn]
    exact ih hn

/-- What the endpoints of a scenario answer. -/
def answer? (s : Scenario) : Endpoint → String → Option String
  | .modemManager, _ => none
  | .modem, line => (s.modem.getD {}).response? line
  | .model, line => s.model.response? line

/-- A relay and its scene at the start of a scenario: the mode is set, the steps are queued, and
nothing has happened yet. -/
structure Start (s : Scenario) (r : Relay) (σ : Scene) : Prop where
  world : World r σ
  config : r.config = s.relay
  mode : r.mode = if s.mode.requiresModem && !s.modem.isSome then .wardModel else s.mode
  pending : r.pending.toList = []
  tally : r.tally = {}
  agenda : σ.agenda = postAll {} s.steps
  busy : ∀ e, σ.busy e = .zero
  transcript : σ.transcript = [⟨.zero, .modeChanged s.mode r.mode⟩]

namespace Start

variable {s : Scenario} {r : Relay} {σ : Scene} {e : Endpoint}

theorem arrivals (h : s.Start r σ) (e : Endpoint) : σ.arrivals e = [] := by
  rw [Scene.arrivals, h.transcript]
  rfl

theorem sentTo (h : s.Start r σ) (e : Endpoint) : σ.sentTo e = [] := by
  rw [Scene.sentTo, h.transcript]
  rfl

theorem fired (h : s.Start r σ) : σ.fired = [] := by
  rw [Scene.fired, h.transcript]
  rfl

theorem failures (h : s.Start r σ) : σ.failures = [] := by
  rw [Scene.failures, h.transcript]
  rfl

theorem modelValues (h : s.Start r σ) : r.pending.modelValues = [] := by
  rw [PendingQueue.modelValues, h.pending, List.filterMap_nil]

theorem modemValues (h : s.Start r σ) : r.pending.modemValues = [] := by
  rw [PendingQueue.modemValues, h.pending, List.filterMap_nil]

theorem mode_eq_splitVerify (h : s.Start r σ) (hmodem : s.modem.isSome = true)
    (hmode : s.mode = .splitVerify) : r.mode = .splitVerify := by
  rw [h.mode, hmodem, hmode]
  rfl

/-- What no step brings is not to come. -/
theorem coming_eq_nil (h : s.Start r σ) (hs : ∀ step ∈ s.steps, ∀ line, step.event ≠ .line e line) :
    σ.coming e = [] := by
  refine List.eq_nil_iff_forall_not_mem.mpr fun x hx => ?_
  rw [Scene.coming, h.agenda] at hx
  obtain ⟨step, hstep, hk⟩ := lane_postAll hx
  exact hs step hstep x.2 (Input.line?_eq_some.mp hk)

/-- Where the client says nothing but the commands, they are its stream. -/
theorem stream_manager (h : s.Start r σ)
    (hs : ∀ step ∈ s.steps, ∀ line, step.event = .line .modemManager line →
      ∃ time, step = .command time line) :
    (σ.stream .modemManager).map (·.2) = s.commands := by
  have hcoming : σ.coming .modemManager =
      ((issues s.steps).insertionSort (· ≤ ·)).map fun i => (i.slot, i.line) := by
    rw [Scene.coming, h.agenda, lane_commands s.steps hs]
  rw [Scene.stream, h.arrivals, hcoming, commands]
  simp [Function.comp_def]

/-- An endpoint from which nothing is to come has been asked all that has been said so far. -/
theorem consulted (h : s.Start r σ) (hc : σ.coming e = []) : σ.Consulted s.answer? e where
  promised x hx := by
    rw [hc] at hx
    cases hx
  asked := by
    rw [h.sentTo, h.arrivals]
    rfl
  answered := by
    rw [Scene.stream, h.arrivals, hc, h.sentTo]
    rfl

end Start

/-- A mode is set at the start without anything being asked for. -/
private theorem move_start {r r' : Relay} {handle : TimerHandle} {mode : Mode}
    {actions : List Action} (m : Move r handle (.setMode mode) r' actions)
    (hp : r.pending.toList = []) (hm : r.mode = .wardModel) :
    actions = [] ∧ r'.pending.toList = [] ∧ r'.tally = r.tally ∧
      r'.mode = if mode.requiresModem && !r.hasModem then .wardModel else mode := by
  cases m with
  | modeRefused hr hh => exact ⟨rfl, hp, rfl, by simp [hr, hh, hm]⟩
  | modeKept => exact ⟨rfl, hp, rfl, by simp [hm, Mode.requiresModem]⟩
  | modeTaken hne hh =>
    refine ⟨by simp [hp], rfl, by simp [enter, abandoned, hp], ?_⟩
    have hmodem : ¬(mode.requiresModem && !r.hasModem) = true := by
      cases mode <;> simp_all [Mode.requiresModem]
    rw [if_neg hmodem]
    rfl

/-- **Every scenario has a session that can start.** -/
theorem session_done (s : Scenario) :
    ∃ session, s.session = .done () session ∧ session.Open s.answer? ∧
      s.Start session.relay session.scene := by
  let start := Session.new
    { seed := s.seed, relay := s.relay, modem := s.modem, model := s.model }
  have hs : start.relay.Sound := Sound.new ..
  have hc : start.peers.closed = [] := rfl
  cases hf : start.feed (.setMode s.mode) with
  | overflow s₁ =>
    obtain ⟨-, r', before, a, after, σ, d, hm, -⟩ := Session.feed_overflow hc hs hf
    have := (move_start hm rfl rfl).1
    simp at this
  | done _ s₁ =>
    obtain ⟨hset, r', actions, d, hm, hr, hacts⟩ := Session.feed_done hc hs hf
    obtain ⟨rfl, hpending, htally, hmode⟩ := move_start hm rfl rfl
    have hscene : s₁.scene = start.scene := hacts.eq_of_nil
    let s₂ := s₁.mapEnv (·.record (.modeChanged s.mode s₁.relay.mode))
    have hscene₂ : s₂.scene = start.scene.record (.modeChanged s.mode s₁.relay.mode) :=
      hscene ▸ Session.scene_record _
    have hagenda : s₂.agenda = {} := congrArg Scene.agenda hscene₂
    let s₃ := s₂.mapEnv ({ · with agenda := postAll s₂.agenda s.steps })
    refine ⟨s₃, ?_, ?_, ?_⟩
    · change (start.setMode s.mode).andThen (fun _ => scheduleAll s.steps) = _
      rw [Session.setMode, hf]
      exact scheduleAll_done (hagenda ▸ rfl : s₂.agenda.now = .zero) s.steps
    · have hset₃ : s₃.peers.settings = start.peers.settings := hset
      refine ⟨Peers.closed_congr hset₃, (Peers.answer?_congr hset₃).trans ?_⟩
      funext e line
      cases e <;> rfl
    · have hscene₃ : s₃.scene =
          { start.scene.record (.modeChanged s.mode s₁.relay.mode) with
            agenda := postAll {} s.steps } := by
        change { s₂.scene with agenda := postAll s₂.agenda s.steps } = _
        rw [hscene₂, hagenda]
      have hrelay₃ : s₃.relay = { r' with deliveries := d } := hr
      have htimers : s₃.scene.timers = [] := by
        refine List.eq_nil_iff_forall_not_mem.mpr fun x hx => ?_
        rw [hscene₃] at hx
        obtain ⟨step, -, hk⟩ := lane_postAll hx
        cases step <;> cases hk
      have hsound := (hm.sound hs).deliver d
      rw [hscene₃] at htimers ⊢
      rw [hrelay₃]
      exact {
        world := {
          relay := hsound
          agenda := sound_postAll .new rfl _
          timers := by simp [htimers, tagged, PendingQueue.timers, hpending]
          bounded := by simp [htimers] }
        config := hm.config_eq
        mode := hmode
        pending := hpending
        tally := htally
        agenda := rfl
        busy := fun e => by cases e <;> rfl
        transcript := by
          rw [hr]
          rfl }

/-! ## Whole sessions -/

section Play

variable {s : Scenario} {session : Session} {I : Relay → Scene → Prop}

/-- **What holds at the start and is kept by every turn holds at the end.** -/
theorem play_done (hI : ∀ {r σ}, I r σ → r.Sound)
    (hturn : ∀ {r σ d r' σ'}, I r σ → Turn s.answer? r σ d r' σ' → I r' σ')
    (hstart : ∀ {r σ}, s.Start r σ → I r σ) {n : Nat} (h : s.play = .done n session) :
    I session.relay session.scene := by
  obtain ⟨s₀, hs₀, hopen, hs⟩ := s.session_done
  rw [play, hs₀] at h
  exact (Session.run_done hI hturn hopen (hstart hs) h).2

theorem play_overflow (hI : ∀ {r σ}, I r σ → r.Sound)
    (hturn : ∀ {r σ d r' σ'}, I r σ → Turn s.answer? r σ d r' σ' → I r' σ')
    (hstart : ∀ {r σ}, s.Start r σ → I r σ) (h : s.play = .overflow session) :
    ∃ r σ d, I r σ ∧ Halt s.answer? r σ d session.relay session.scene := by
  obtain ⟨s₀, hs₀, hopen, hs⟩ := s.session_done
  rw [play, hs₀] at h
  exact Session.run_overflow hI hturn hopen (hstart hs) h

end Play

end ModemRelay.Scenario
