import ModemRelay.Proofs.Relay.Balance

/-!
# Warnings and errors

What a relay writes to the log is held against its counters. It notes an error for each line that it
could not hand over, and a warning for each divergence: answers that differ or time out, a line that
is dropped, a modem answer that a change of mode discards, and a mode that there is no modem for
(`Alarmed`). Steps note no errors of their own and warn as often as they count (`Warns`), and so log
and counters agree after any number of calls (`alarmed_handleAll`).
-/

namespace ModemRelay.Relay

/-! ## What is noted -/

/-- The same surroundings, which keep what the relay notes. -/
def Host.noted {σ : Type} (host : Host σ) : Host (σ × List Notice) where
  send e line s := (host.send e line s.1).mapState (·, s.2)
  nextTimer s := host.nextTimer s.1
  arm delay x s := (host.arm delay x s.1).mapState (·, s.2)
  cancel timer s := (host.cancel timer s.1, s.2)
  report failure s := (host.report failure s.1, s.2)
  note notice s := (host.note notice s.1, s.2 ++ [notice])

/-- Whether the action notes something of the level. -/
def Action.notes (level : Log.Level) : Action → Bool
  | .note notice => notice.level = level
  | _ => false

/-- The call asks for a mode that there is no modem for. -/
def Call.isUnavailable (c : Call) : Bool :=
  c.input.mode?.any fun mode => mode.requiresModem && !c.before.hasModem

/-- The exchanges that are drained in the calls by changes to a mode that does not pass on what the
modem has answered. -/
def drainedAway (calls : List Call) : List Exchange :=
  drainedIn (calls.filter (·.after.mode ≠ .passThrough))

/-- The log of a relay agrees with its counters and the calls that led to it. -/
structure Alarmed (calls : List Call) (notices : List Notice) (r : Relay) : Prop where
  errors : notices.countP (·.level = .error) = r.deliveries.sendFailures
  warnings : notices.countP (·.level = .warn) =
    calls.countP (·.isUnavailable) + r.tally.mismatched + r.tally.timedOut +
      r.tally.droppedLines + (drainedAway calls).countP (·.awaitsModel)

@[simp] theorem drainedAway_append (calls calls' : List Call) :
    drainedAway (calls ++ calls') = drainedAway calls ++ drainedAway calls' := by
  simp [drainedAway]

theorem drainedAway_singleton (c : Call) :
    drainedAway [c] = if c.after.mode = .passThrough then [] else c.drained := by
  unfold drainedAway
  split <;> simp [drainedIn, *]

theorem Alarmed.new (config : Config) (hasModem : Bool) :
    Alarmed [] [] (.new config hasModem) := by
  constructor <;> rfl

/-! ## One step -/

variable {r : Relay} {timer : TimerHandle} {input : Input} {actions actions' : List Action}
  {t t' : Tally} {n : Nat}

/-- What a step writes to the log that takes the counters from `t` to `t'`: no errors, and a warning
for each divergence that it counts, besides `n` more. -/
structure Warns (t t' : Tally) (actions : List Action) (n : Nat) : Prop where
  errors : actions.countP (·.notes .error) = 0
  warnings : actions.countP (·.notes .warn) + (t.mismatched + t.timedOut + t.droppedLines) =
    t'.mismatched + t'.timedOut + t'.droppedLines + n

@[simp] theorem notes_note (notice : Notice) (level : Log.Level) :
    (Action.note notice).notes level = decide (notice.level = level) := rfl

@[simp] theorem notes_report (f : Failure) (level : Log.Level) :
    (Action.report f).notes level = false := rfl

@[simp] theorem notes_cancel (timer : TimerHandle) (level : Log.Level) :
    (Action.cancel timer).notes level = false := rfl

@[simp] theorem notes_arm (delay : Duration) (x : ExchangeId) (level : Log.Level) :
    (Action.arm delay x).notes level = false := rfl

@[simp] theorem notes_undeliverable (line : String) (mode : Mode) (level : Log.Level) :
    (Action.undeliverable line mode).notes level = false := rfl

@[simp] theorem countP_notes_offer (target : Endpoint) (line : String) (level : Log.Level) :
    (offer target line).countP (·.notes level) = if level = .debug then 1 else 0 := by
  cases level <;> rfl

@[simp] theorem countP_notes_callOff (timer : Option TimerHandle) (level : Log.Level) :
    (callOff timer).countP (·.notes level) = if timer.isSome ∧ level = .debug then 1 else 0 := by
  cases timer <;> cases level <;> rfl

/-- That a line has come is noted, and nothing to worry about. -/
theorem Warns.received (h : Warns t t' actions n) {source : Endpoint} {line : String} :
    Warns t t' (.note (.received source line) :: actions) n where
  errors := by simpa [Notice.level] using h.errors
  warnings := by simpa [Notice.level] using h.warnings

theorem warns_onManagerLine (line : String) : Warns r.tally r.tally (r.onManagerLine line) 0 := by
  unfold onManagerLine offerToModem
  constructor <;> cases r.mode <;> cases r.hasModem <;> simp

theorem warns_dropLine (source : Endpoint) (line : String) :
    Warns r.tally (r.dropLine source line).1.tally (r.dropLine source line).2 0 := by
  constructor <;> simp [dropLine, Notice.level]
  omega

theorem warns_dropLate (line : String) :
    Warns r.tally (r.dropLate line).1.tally (r.dropLate line).2 0 := by
  constructor <;> simp [dropLate, Notice.level]

theorem warns_complete (modem model : String) :
    Warns r.tally (r.complete modem model).1.tally (r.complete modem model).2 0 := by
  unfold complete
  split
  · constructor <;> simp [Notice.level]
  · constructor <;> simp [Notice.level]
    omega

theorem warns_pairModemLine (line : String) :
    Warns r.tally (r.pairModemLine line).1.tally (r.pairModemLine line).2 0 := by
  unfold pairModemLine
  split
  · next x modem model timer rest hp =>
    obtain ⟨herrors, hwarnings⟩ := warns_complete (r := { r with pending := rest }) line model
    constructor <;> simp [*]
  · constructor <;> simp [Notice.level]

theorem warns_onModemLine (line : String) :
    Warns r.tally (r.onModemLine line).1.tally (r.onModemLine line).2 0 := by
  unfold onModemLine
  split
  · exact warns_pairModemLine line
  · split
    · exact warns_dropLate line
    · exact warns_dropLine .modem line
  · split
    · exact warns_dropLate line
    · constructor <;> simp

theorem warns_pairModelLine (line : String) :
    Warns r.tally (r.pairModelLine timer line).1.tally (r.pairModelLine timer line).2 0 := by
  unfold pairModelLine
  split
  · next x modem model handle rest hp =>
    exact warns_complete (r := { r with pending := rest }) modem line
  · constructor <;> simp [Notice.level]

theorem warns_onModelLine (line : String) :
    Warns r.tally (r.onModelLine timer line).1.tally (r.onModelLine timer line).2 0 := by
  unfold onModelLine
  split
  · constructor <;> simp
  · exact warns_dropLine .model line
  · exact warns_pairModelLine line

theorem warns_onTimer (x : ExchangeId) :
    Warns r.tally (r.onTimer x).1.tally (r.onTimer x).2 0 := by
  unfold onTimer
  split
  · constructor <;> simp [Notice.level]
    omega
  · constructor <;> simp [Notice.level]

/-- Each exchange that the model has answered is warned of, and each other one unless its answer is
passed on. -/
theorem countP_notes_drainActions (next : Mode) (l : List Exchange)
    (hone : ∀ e ∈ l, e.ModelFirst ∨ e.ModemFirst) :
    (l.flatMap (drainActions next)).countP (·.notes .error) = 0 ∧
      (l.flatMap (drainActions next)).countP (·.notes .warn) =
        l.countP (·.modelValue.isSome) +
          if next = .passThrough then 0 else l.countP (·.awaitsModel) := by
  induction l with
  | nil => simp
  | cons e rest ih =>
    rw [List.forall_mem_cons] at hone
    obtain ⟨herrors, hwarnings⟩ := ih hone.2
    rw [List.flatMap_cons, List.countP_append, List.countP_append, herrors, hwarnings]
    rcases hone.1 with ⟨x, model, timer, rfl⟩ | ⟨x, modem, rfl⟩
    · simp [drainActions, Notice.level, List.countP_cons]
      omega
    · cases next <;> simp [drainActions, Notice.level, List.countP_cons]
      all_goals omega

theorem Sound.warns_drain (h : r.Sound) (next : Mode) :
    Warns r.tally (r.drain next).1.tally (r.drain next).2
      (if next = .passThrough then 0 else r.pending.toList.countP (·.awaitsModel)) := by
  obtain ⟨herrors, hwarnings⟩ := countP_notes_drainActions next r.pending.toList
    fun e => h.modelFirst_or_modemFirst
  unfold drain
  by_cases hp : r.pending.toList = []
  · constructor <;> simp [hp]
  · constructor <;> simp [hp, herrors, hwarnings, Notice.level]
    omega

theorem Sound.warns_changeMode (h : r.Sound) (next : Mode) {deliveries : Deliveries} {c : Call}
    (hc : c = ⟨r, .setMode next, { (r.changeMode next).1 with deliveries }⟩) :
    Warns r.tally (r.changeMode next).1.tally (r.changeMode next).2
      ([c].countP (·.isUnavailable) + (drainedAway [c]).countP (·.awaitsModel)) := by
  rw [drainedAway_singleton]
  subst hc
  unfold changeMode
  split
  · next hr =>
    rw [Call.drained_of_eq rfl, ite_self]
    constructor <;> simp [Call.isUnavailable, Input.mode?, Notice.level, hr]
    omega
  · next hr =>
    split
    · rw [Call.drained_of_eq rfl, ite_self]
      constructor <;> simp [Call.isUnavailable, Input.mode?, hr]
    · next hm =>
      obtain ⟨herrors, hwarnings⟩ := h.warns_drain next
      constructor
      · simp [herrors, Notice.level]
      · by_cases hn : next = .passThrough <;>
          simp_all [Call.isUnavailable, Call.drained, Input.mode?, Notice.level]

/-- **A step warns of all that it counts**, and notes no errors of its own. -/
theorem Sound.warns_step (h : r.Sound) (timer : TimerHandle) {deliveries : Deliveries} {c : Call}
    (hc : c = ⟨r, input, { (r.step timer input).1 with deliveries }⟩) :
    Warns r.tally (r.step timer input).1.tally (r.step timer input).2
      ([c].countP (·.isUnavailable) + (drainedAway [c]).countP (·.awaitsModel)) := by
  have hmode : input.mode? = none → (r.step timer input).1.mode = r.mode :=
    (h.move input).mode_eq
  cases input with
  | setMode next => exact h.warns_changeMode next hc
  | timer x =>
    rw [drainedAway_singleton, Call.drained_of_eq (hc ▸ hmode rfl), ite_self, hc]
    exact warns_onTimer x
  | line source line =>
    rw [drainedAway_singleton, Call.drained_of_eq (hc ▸ hmode rfl), ite_self, hc]
    cases source with
    | modemManager => exact (warns_onManagerLine line).received
    | modem => exact (warns_onModemLine line).received
    | model => exact (warns_onModelLine line).received

/-! ## All calls of a run -/

variable {σ : Type} {host : Host σ} {r' : Relay} {s s' : σ} {d d' : Deliveries}
  {inputs : List Input} {calls past : List Call} {notices notices' : List Notice} {action : Action}

/-- An action adds to the log what it notes, and an error where it is a line that is refused. -/
theorem perform_noted
    (h : perform host.noted action d (s, notices) = .done () (d', (s', notices'))) :
    notices'.countP (·.level = .warn) =
        notices.countP (·.level = .warn) + [action].countP (·.notes .warn) ∧
      notices'.countP (·.level = .error) + d.sendFailures =
        notices.countP (·.level = .error) + [action].countP (·.notes .error) +
          d'.sendFailures := by
  cases performs_of_done h with
  | @taken target line _ _ _ hsend =>
    obtain ⟨s₁, -, heq⟩ := Outcome.mapState_eq_done.mp hsend
    cases heq
    cases target <;> simp [Deliveries.accept, Action.notes]
  | refused hsend =>
    obtain ⟨s₁, -, heq⟩ := Outcome.mapState_eq_done.mp hsend
    cases heq
    simp [Deliveries.refuse, Action.notes, Notice.level]
    omega
  | undeliverable =>
    simp [Deliveries.refuse, Notice.level]
    omega
  | armed harm =>
    obtain ⟨s₁, -, heq⟩ := Outcome.mapState_eq_done.mp harm
    cases heq
    simp
  | cancelled | reported => simp
  | noted => simp [List.countP_cons]

theorem performAll_noted
    (h : performAll host.noted actions d (s, notices) = .done () (d', (s', notices'))) :
    notices'.countP (·.level = .warn) =
        notices.countP (·.level = .warn) + actions.countP (·.notes .warn) ∧
      notices'.countP (·.level = .error) + d.sendFailures =
        notices.countP (·.level = .error) + actions.countP (·.notes .error) +
          d'.sendFailures := by
  induction actions generalizing d s notices with
  | nil =>
    cases h
    simp
  | cons action rest ih =>
    obtain ⟨d₁, ⟨s₁, notices₁⟩, hact, hrest⟩ := performAll_cons_done h
    obtain ⟨hwarnings, herrors⟩ := perform_noted hact
    obtain ⟨hwarnings', herrors'⟩ := ih hrest
    rw [← List.singleton_append, List.countP_append, List.countP_append]
    omega

namespace Alarmed

/-- The log still agrees with the counters after a step whose actions are carried out. -/
theorem step (h : Alarmed past notices r) (hs : r.Sound) {deliveries : Deliveries}
    (hp : performAll host.noted (r.step timer input).2 r.deliveries (s, notices) =
      .done () (deliveries, (s', notices'))) {c : Call}
    (hc : c = ⟨r, input, { (r.step timer input).1 with deliveries }⟩) :
    Alarmed (past ++ [c]) notices' { (r.step timer input).1 with deliveries } := by
  obtain ⟨hwarnings, herrors⟩ := performAll_noted hp
  have hstep := hs.warns_step timer hc
  constructor
  · rw [hstep.errors, h.errors] at herrors
    simp only
    omega
  · have hcounted := hstep.warnings
    rw [List.countP_append, drainedAway_append, List.countP_append, hwarnings, h.warnings]
    simp only
    omega

/-- **The log still agrees with the counters after a call.** -/
theorem handle (h : Alarmed past notices r) (hs : r.Sound)
    (hcall : Relay.handle host.noted input r (s, notices) = .done () (r', (s', notices'))) :
    Alarmed (past ++ [⟨r, input, r'⟩]) notices' r' := by
  obtain ⟨deliveries, hp, rfl⟩ := handle_done hcall
  exact h.step hs hp rfl

end Alarmed

/-- **The log agrees with the counters after any number of calls**, with and without a modem, in
whichever order lines and timers come and whichever lines are refused: no line that could not be
handed over and no divergence goes by in silence, and none is noted twice. The calls up to any
moment are a run of their own, so this holds between all calls. -/
theorem alarmed_handleAll (host : Host σ) (config : Config) (hasModem : Bool)
    (hrun : handleAll host.noted inputs (.new config hasModem) (s, []) =
      .done calls (r, (s', notices))) : Alarmed calls notices r :=
  (Sound.new config hasModem).calls_invariant
    (I := fun past r (state : σ × List Notice) => Alarmed past state.2 r)
    (fun hs h hcall => h.handle hs hcall) (Alarmed.new config hasModem) hrun

/-- Runs from the start among surroundings that refuse all lines for the client, with what the relay
notes. -/
def noting (hasModem : Bool) (inputs : List Input) :
    Outcome (Relay × Journal × List Notice) (List Call) :=
  handleAll Journal.host.noted inputs (.new {} hasModem)
    (⟨⟨1⟩, [.modemManager], #[], {}, #[]⟩, [])

/-- With a modem, answers time out, differ and are discarded, and without one, changes of mode are
refused and lines are dropped instead. -/
theorem alarmed_handleAll_medley :
    (∃ calls r s notices,
      noting true (medley ++ [.setMode .splitVerify, .line .modem "f", .setMode .wardModel]) =
        .done calls (r, (s, notices)) ∧ Alarmed calls notices r ∧
      r.deliveries.sendFailures = 7 ∧ notices.countP (·.level = .warn) = 5) ∧
    ∃ calls r s notices, noting false medley = .done calls (r, (s, notices)) ∧
      Alarmed calls notices r ∧ r.deliveries.sendFailures = 5 ∧
      notices.countP (·.level = .warn) = 10 := by
  have hwith := Outcome.eq_done
    (o := noting true (medley ++ [.setMode .splitVerify, .line .modem "f", .setMode .wardModel]))
    (by decide +kernel)
  have hwithout := Outcome.eq_done (o := noting false medley) (by decide +kernel)
  exact ⟨⟨_, _, _, _, hwith, alarmed_handleAll _ _ _ hwith, by decide +kernel, by decide +kernel⟩,
    _, _, _, _, hwithout, alarmed_handleAll _ _ _ hwithout, by decide +kernel, by decide +kernel⟩

end ModemRelay.Relay
