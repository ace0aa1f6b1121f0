import ModemRelay.Proofs.Relay.Answering
import ModemRelay.Proofs.Relay.Calls

/-!
# What the modem says stays with the relay

Outside of the pass-through mode the text of a modem line is compared and kept, and no more. A relay
is seen without these texts by its outline (`Relay.outline`), and what it asks for without the
reports of differences by `overt`. Relays of the same outline that take inputs that differ in these
texts alone ask for the same and have the same outline again (`told_step`), and so in all calls of a
run (`outlines_handleAll`).
-/

namespace ModemRelay

/-- The exchange without what the modem has said, though not whether it has. -/
def Exchange.redacted (e : Exchange) : Exchange :=
  { e with modemValue := e.modemValue.map fun _ => "" }

@[simp] theorem Exchange.awaitsModem_redacted (e : Exchange) :
    e.redacted.awaitsModem = e.awaitsModem := by
  cases e.modemValue <;> simp [redacted, awaitsModem]

@[simp] theorem Exchange.awaitsModel_redacted (e : Exchange) :
    e.redacted.awaitsModel = e.awaitsModel := by
  cases e.modemValue <;> simp [redacted, awaitsModel]

/-- The counters with the comparisons counted together. -/
def Tally.redacted (t : Tally) : Tally :=
  { t with matched := t.matched + t.mismatched, mismatched := 0 }

/-! ## Queues without the texts -/

namespace PendingQueue

variable {q q' : PendingQueue}

/-- The exchanges without what the modem has said, and the number that comes next. -/
def outline (q : PendingQueue) : List Exchange × ExchangeId :=
  (q.toList.map Exchange.redacted, q.nextId)

theorem outline_pushModem (h : q.outline = q'.outline) (value value' : String) :
    (q.pushModem value).outline = (q'.pushModem value').outline := by
  obtain ⟨hlist, hnext⟩ := Prod.mk.inj h
  simp [outline, hlist, hnext, Exchange.redacted, Exchange.ofModem]

theorem outline_pushModel (h : q.outline = q'.outline) (value : String) (timer : TimerHandle) :
    (q.pushModel value timer).outline = (q'.pushModel value timer).outline := by
  obtain ⟨hlist, hnext⟩ := Prod.mk.inj h
  simp [outline, hlist, hnext]

/-- What is taken out of a queue and what is left, without the texts. -/
def outlines (found : Option (Exchange × PendingQueue)) :
    Option (Exchange × List Exchange × ExchangeId) :=
  found.map (Prod.map Exchange.redacted outline)

/-- Exchanges that are the same without the texts differ in what the modem has said. -/
theorem of_outlines_eq {found found' : Option (Exchange × PendingQueue)}
    (h : outlines found = outlines found') :
    found = none ∧ found' = none ∨
      ∃ x modem modem' model timer rest rest', found = some (⟨x, modem, model, timer⟩, rest) ∧
        found' = some (⟨x, modem', model, timer⟩, rest') ∧ modem.isSome = modem'.isSome ∧
        rest.outline = rest'.outline := by
  cases found with
  | none => exact .inl ⟨rfl, Option.map_eq_none_iff.mp h.symm⟩
  | some taken =>
    obtain ⟨⟨⟨x', modem', model', timer'⟩, rest'⟩, rfl, heq⟩ := Option.map_eq_some_iff.mp h.symm
    obtain ⟨⟨x, modem, model, timer⟩, rest⟩ := taken
    obtain ⟨he, hrest⟩ := Prod.mk.inj heq
    simp only [Exchange.redacted, Exchange.mk.injEq] at he
    obtain ⟨rfl, hmodem, rfl, rfl⟩ := he
    refine .inr ⟨_, _, _, _, _, _, _, rfl, rfl, ?_, hrest.symm⟩
    simpa using congrArg Option.isSome hmodem.symm

/-- Takes the head off an outline where it has the property. -/
private def headIf (p : Exchange → Bool) :
    List Exchange × ExchangeId → Option (Exchange × List Exchange × ExchangeId)
  | (e :: rest, next) => if p e then some (e, rest, next) else none
  | ([], _) => none

private theorem outlines_eq_headIf {p : Exchange → Bool} (hp : ∀ e : Exchange, p e.redacted = p e)
    {found : Option (Exchange × PendingQueue)}
    (hsome : ∀ e rest, found = some (e, rest) →
      p e = true ∧ q.toList = e :: rest.toList ∧ rest.nextId = q.nextId)
    (hnone : found = none → ∀ e ∈ q.toList.head?, p e = false) :
    outlines found = headIf p q.outline := by
  cases found with
  | some taken =>
    obtain ⟨e, rest⟩ := taken
    obtain ⟨he, hl, hn⟩ := hsome e rest rfl
    simp [outlines, headIf, outline, hl, hn, hp, he]
  | none =>
    have hhead := hnone rfl
    cases hl : q.toList with
    | nil => simp [outlines, headIf, outline, hl]
    | cons e rest => simp [outlines, headIf, outline, hl, hp, hhead e (by simp [hl])]

private theorem outlines_popAwaitingModem_eq (q : PendingQueue) :
    outlines q.popAwaitingModem = headIf (·.awaitsModem) q.outline :=
  outlines_eq_headIf Exchange.awaitsModem_redacted (fun _ _ => popAwaitingModem_eq_some)
    popAwaitingModem_eq_none

private theorem outlines_popAwaitingModel_eq (q : PendingQueue) :
    outlines q.popAwaitingModel = headIf (·.awaitsModel) q.outline :=
  outlines_eq_headIf Exchange.awaitsModel_redacted (fun _ _ => popAwaitingModel_eq_some)
    popAwaitingModel_eq_none

theorem outlines_popAwaitingModem (h : q.outline = q'.outline) :
    outlines q.popAwaitingModem = outlines q'.popAwaitingModem := by
  rw [outlines_popAwaitingModem_eq, outlines_popAwaitingModem_eq, h]

theorem outlines_popAwaitingModel (h : q.outline = q'.outline) :
    outlines q.popAwaitingModel = outlines q'.popAwaitingModel := by
  rw [outlines_popAwaitingModel_eq, outlines_popAwaitingModel_eq, h]

private theorem outlines_remove_eq (x : ExchangeId) :
    outlines (q.remove x) = (q.outline.1.find? (·.id == x)).map
      fun e => (e, q.outline.1.eraseP (·.id == x), q.outline.2) := by
  simp only [outline, List.find?_map, List.eraseP_map]
  change _ = ((q.toList.find? (·.id == x)).map Exchange.redacted).map _
  cases hr : q.remove x with
  | none =>
    have hget : q.get? x = none := by simpa [remove] using hr
    rw [← get?_eq, hget]
    rfl
  | some taken =>
    obtain ⟨e, rest⟩ := taken
    obtain ⟨hget, hl, hn⟩ := remove_eq_some hr
    rw [← get?_eq, hget]
    simp only [outlines, Option.map_some, Prod.map, outline, hl, hn]
    rfl

theorem outlines_remove (h : q.outline = q'.outline) (x : ExchangeId) :
    outlines (q.remove x) = outlines (q'.remove x) := by
  rw [outlines_remove_eq, outlines_remove_eq, h]

end PendingQueue

namespace Relay

/-! ## One step -/

/-- The input without what the modem says. -/
def Input.redacted : Input → Input
  | .line .modem _ => .line .modem ""
  | input => input

theorem Input.of_redacted_eq {input input' : Input} (h : input.redacted = input'.redacted) :
    input' = input ∨ ∃ line line', input = .line .modem line ∧ input' = .line .modem line' := by
  cases input with
  | line source line =>
    cases input' with
    | line source' line' => cases source <;> cases source' <;> simp_all [redacted]
    | timer | setMode => cases source <;> cases h
  | timer | setMode =>
    cases input' with
    | line source' line' => cases source' <;> cases h
    | timer | setMode => exact .inl h.symm

/-- Whether an action reports a difference between the two answers to a command. -/
def Action.isMismatch : Action → Bool
  | .report (.mismatch ..) => true
  | _ => false

/-- What is asked for, except for the reports of differences. -/
def overt (actions : List Action) : List Action := (requests actions).filter (!·.isMismatch)

/-- A relay without what the modem has said. -/
structure Outline where
  config : Config
  hasModem : Bool
  mode : Mode
  /-- The pending exchanges and the number of the next one. -/
  pending : List Exchange × ExchangeId
  owedModemLines : Nat
  tally : Tally
  deliveries : Deliveries
  deriving DecidableEq

def outline (r : Relay) : Outline :=
  { r with pending := r.pending.outline, tally := r.tally.redacted }

/-- What a step shows without what the modem has said. -/
def told (p : Relay × List Action) : Outline × List Action := (p.1.outline, overt p.2)

variable {r r' : Relay}

theorem outline_pending {q q' : PendingQueue} (h : r.outline = r'.outline)
    (hq : q.outline = q'.outline) :
    { r with pending := q }.outline = { r' with pending := q' }.outline :=
  congrArg₂ (fun o pending => { o with pending }) h hq

theorem outline_deliver (h : r.outline = r'.outline) (deliveries : Deliveries) :
    { r with deliveries }.outline = { r' with deliveries }.outline :=
  congrArg (fun o : Outline => { o with deliveries }) h

theorem redacted_compared (t : Tally) (modem model : String) :
    (compared t modem model).redacted = { t.redacted with matched := t.redacted.matched + 1 } := by
  unfold compared
  split
  · simp [Tally.redacted, Nat.add_right_comm]
  · simp [Tally.redacted, Nat.add_assoc]

theorem overt_verdict (modem model : String) :
    (verdict modem model).filter (!·.isMismatch) = [.send .modemManager model] := by
  unfold verdict
  split <;> rfl

private theorem told_complete_eq (r : Relay) (modem model : String) :
    told (r.complete modem model) =
      ({ r.outline with tally.matched := r.outline.tally.matched + 1 },
        [.send .modemManager model]) := by
  simp only [told, overt, complete_fst, requests_complete, overt_verdict, outline,
    redacted_compared]

/-- Of a pair the client gets the model's answer, whatever the modem has said. -/
theorem told_complete (h : r.outline = r'.outline) (modem modem' model : String) :
    told (r.complete modem model) = told (r'.complete modem' model) := by
  rw [told_complete_eq, told_complete_eq, h]

theorem overt_callOff (timer : Option TimerHandle) (actions : List Action) :
    overt (callOff timer ++ actions) = timer.toList.map .cancel ++ overt actions := by
  rw [overt, requests_append, requests_callOff, List.filter_append]
  cases timer <;> rfl

theorem told_pairModemLine (h : r.outline = r'.outline) (line line' : String) :
    told (r.pairModemLine line) = told (r'.pairModemLine line') := by
  have hpending : r.pending.outline = r'.pending.outline := congrArg Outline.pending h
  have hkept := outline_pending h (PendingQueue.outline_pushModem hpending line line')
  unfold pairModemLine
  rcases PendingQueue.of_outlines_eq (PendingQueue.outlines_popAwaitingModem hpending) with
    ⟨hl, hr⟩ | ⟨x, modem, modem', model, timer, rest, rest', hl, hr, -, hrest⟩
  · rw [hl, hr]
    exact congrArg (·, []) hkept
  · rw [hl, hr]
    cases model with
    | none => exact congrArg (·, []) hkept
    | some model =>
      obtain ⟨hnext, hactions⟩ :=
        Prod.mk.inj (told_complete (outline_pending h hrest) line line' model)
      simp only [told, overt_callOff, hnext, hactions]

theorem told_pairModelLine (h : r.outline = r'.outline) (timer : TimerHandle) (line : String) :
    told (r.pairModelLine timer line) = told (r'.pairModelLine timer line) := by
  have hpending : r.pending.outline = r'.pending.outline := congrArg Outline.pending h
  have hconfig : r.config = r'.config := congrArg Outline.config h
  have hnext : r.pending.nextId = r'.pending.nextId := congrArg Prod.snd hpending
  have hkept : ({ r with pending := r.pending.pushModel line timer }.outline,
      [.arm r.config.responseTimeout r.pending.nextId]) =
      ({ r' with pending := r'.pending.pushModel line timer }.outline,
        [Action.arm r'.config.responseTimeout r'.pending.nextId]) := by
    rw [outline_pending h (PendingQueue.outline_pushModel hpending line timer), hconfig, hnext]
  unfold pairModelLine
  rcases PendingQueue.of_outlines_eq (PendingQueue.outlines_popAwaitingModel hpending) with
    ⟨hl, hr⟩ | ⟨x, modem, modem', model, _, rest, rest', hl, hr, hmodem, hrest⟩
  · rw [hl, hr]
    exact hkept
  · rw [hl, hr]
    match modem, modem', hmodem with
    | none, none, _ => exact hkept
    | some modem, some modem', _ => exact told_complete (outline_pending h hrest) modem modem' line

theorem told_onTimer (h : r.outline = r'.outline) (x : ExchangeId) :
    told (r.onTimer x) = told (r'.onTimer x) := by
  have hpending : r.pending.outline = r'.pending.outline := congrArg Outline.pending h
  have hstale : ({ r with tally.staleTimeouts := r.tally.staleTimeouts + 1 }.outline, []) =
      ({ r' with tally.staleTimeouts := r'.tally.staleTimeouts + 1 }.outline, ([] : List Action)) :=
    congrArg (fun o : Outline => ({ o with tally.staleTimeouts := o.tally.staleTimeouts + 1 }, []))
      h
  unfold onTimer
  rcases PendingQueue.of_outlines_eq (PendingQueue.outlines_remove hpending x) with
    ⟨hl, hr⟩ | ⟨y, modem, modem', model, _, rest, rest', hl, hr, hmodem, hrest⟩
  · rw [hl, hr]
    exact hstale
  · rw [hl, hr]
    match modem, modem', model, hmodem with
    | none, none, some model, _ =>
      exact congrArg (fun o : Outline => ({ o with tally.timedOut := o.tally.timedOut + 1 },
        [Action.report (.timeout model), .send .modemManager model])) (outline_pending h hrest)
    | none, none, none, _ => exact hstale
    | some _, some _, _, _ => exact hstale

theorem onManagerLine_congr (h : r.outline = r'.outline) (line : String) :
    r.onManagerLine line = r'.onManagerLine line := by
  have hmode : r.mode = r'.mode := congrArg Outline.mode h
  have hmodem : r.hasModem = r'.hasModem := congrArg Outline.hasModem h
  unfold onManagerLine offerToModem
  rw [hmode, hmodem]

theorem told_dropLine (h : r.outline = r'.outline) (source : Endpoint) (line line' : String) :
    told (r.dropLine source line) = told (r'.dropLine source line') :=
  congrArg (fun o : Outline => ({ o with tally.droppedLines := o.tally.droppedLines + 1 }, [])) h

theorem told_dropLate (h : r.outline = r'.outline) (line line' : String) :
    told (r.dropLate line) = told (r'.dropLate line') :=
  congrArg (fun o : Outline => ({ o with
    owedModemLines := o.owedModemLines - 1
    tally.lateModemLines := o.tally.lateModemLines + 1 }, [])) h

theorem told_onModemLine (h : r.outline = r'.outline) (hm : r.mode ≠ .passThrough)
    (line line' : String) : told (r.onModemLine line) = told (r'.onModemLine line') := by
  have hmode : r'.mode = r.mode := (congrArg Outline.mode h).symm
  have howed : r'.owedModemLines = r.owedModemLines := (congrArg Outline.owedModemLines h).symm
  unfold onModemLine
  rw [hmode, howed]
  cases hr : r.mode with
  | passThrough => exact (hm hr).elim
  | splitVerify => exact told_pairModemLine h line line'
  | wardModel =>
    by_cases ho : 0 < r.owedModemLines
    · simp only [ho, if_true]
      exact told_dropLate h line line'
    · simp only [ho, if_false]
      exact told_dropLine h .modem line line'

theorem told_onModelLine (h : r.outline = r'.outline) (timer : TimerHandle) (line : String) :
    told (r.onModelLine timer line) = told (r'.onModelLine timer line) := by
  have hmode : r'.mode = r.mode := (congrArg Outline.mode h).symm
  unfold onModelLine
  rw [hmode]
  cases r.mode with
  | passThrough => exact told_dropLine h .model line line
  | splitVerify => exact told_pairModelLine h timer line
  | wardModel => exact congrArg (·, [Action.send .modemManager line]) h

/-- Where the modem is not the one the client talks to, nothing of what it has said is left of a
drained exchange. -/
theorem drainRequests_redacted {next : Mode} (hn : next ≠ .passThrough) (e : Exchange) :
    drainRequests next e.redacted = drainRequests next e := by
  unfold drainRequests
  simp only [if_neg hn]
  rfl

private theorem told_drain_eq (r : Relay) {next : Mode} (hn : next ≠ .passThrough) :
    told (r.drain next) =
      ({ r.outline with
          pending := ([], r.outline.pending.2)
          owedModemLines :=
            r.outline.owedModemLines + r.outline.pending.1.countP (·.modelValue.isSome)
          tally := { r.outline.tally with
            drained := r.outline.tally.drained + r.outline.pending.1.length
            timedOut :=
              r.outline.tally.timedOut + r.outline.pending.1.countP (·.modelValue.isSome) } },
        (r.outline.pending.1.flatMap (drainRequests next)).filter (!·.isMismatch)) := by
  have hcount : r.outline.pending.1.countP (·.modelValue.isSome) = r.abandoned := List.countP_map
  have hlength : r.outline.pending.1.length = r.pending.toList.length := List.length_map _
  have hasked : r.outline.pending.1.flatMap (drainRequests next) =
      r.pending.toList.flatMap (drainRequests next) := by
    simp only [outline, PendingQueue.outline, List.flatMap_map, drainRequests_redacted hn]
  rw [hcount, hlength, hasked, told, overt, requests_drain, drain_fst]
  rfl

theorem told_drain (h : r.outline = r'.outline) {next : Mode} (hn : next ≠ .passThrough) :
    told (r.drain next) = told (r'.drain next) := by
  rw [told_drain_eq r hn, told_drain_eq r' hn, h]

theorem told_changeMode (h : r.outline = r'.outline) {next : Mode}
    (hn : (r.changeMode next).1.mode ≠ .passThrough) :
    told (r.changeMode next) = told (r'.changeMode next) := by
  have hmode : r'.mode = r.mode := (congrArg Outline.mode h).symm
  have hmodem : r'.hasModem = r.hasModem := (congrArg Outline.hasModem h).symm
  unfold changeMode at hn ⊢
  rw [hmode, hmodem]
  by_cases hr : (next.requiresModem && !r.hasModem) = true
  · rw [if_pos hr, if_pos hr]
    exact congrArg (·, []) h
  · by_cases hk : next = r.mode
    · rw [if_neg hr, if_pos hk, if_neg hr, if_pos hk]
      exact congrArg (·, []) h
    · rw [if_neg hr, if_neg hk] at hn ⊢
      rw [if_neg hr, if_neg hk]
      obtain ⟨houtline, hasked⟩ := Prod.mk.inj (told_drain h hn)
      simp only [told, overt, requests_append, List.filter_append] at hasked ⊢
      rw [hasked]
      exact congrArg (fun o : Outline => ({ o with
        mode := next
        owedModemLines := if next = Mode.splitVerify then 0 else o.owedModemLines }, _)) houtline

/-- **A step tells nothing of what the modem says**, outside of the pass-through mode. -/
theorem told_step (h : r.outline = r'.outline) {input input' : Input}
    (hi : input.redacted = input'.redacted) (timer : TimerHandle) (hm : r.mode ≠ .passThrough)
    (hm' : (r.step timer input).1.mode ≠ .passThrough) :
    told (r.step timer input) = told (r'.step timer input') := by
  rcases Input.of_redacted_eq hi with rfl | ⟨line, line', rfl, rfl⟩
  · cases input' with
    | line source line =>
      cases source with
      | modemManager =>
        simp only [step, onManagerLine_congr h line]
        exact congrArg (·, _) h
      | modem => exact told_onModemLine h hm line line
      | model => exact told_onModelLine h timer line
    | timer x => exact told_onTimer h x
    | setMode next => exact told_changeMode h hm'
  · exact told_onModemLine h hm line line'

/-! ## All calls of a run -/

/-- Whether an action is a note or the report of a difference. -/
def Action.isCovert (action : Action) : Bool := action.isNote || action.isMismatch

/-- All that is asked of the surroundings but to write to the log and to hear of differences. -/
def Action.overt? : Action → Option Action
  | .report (.mismatch ..) => none
  | action => action.asked?

theorem filter_isCovert (actions : List Action) :
    actions.filter (!·.isCovert) = overt actions := by
  rw [overt, requests, List.filter_filter]
  congr 1
  funext action
  rw [Action.isCovert, Bool.not_or, Bool.and_comm]

/-- The surroundings answer as they do whatever differences they hear of. -/
structure Host.Impartial {σ τ : Type} (host : Host σ) (shown : σ → τ) : Prop
    extends host.AnswersBy shown where
  mismatch (modem model : String) (s : σ) : shown (host.report (.mismatch modem model) s) = shown s

variable {σ τ : Type} {host : Host σ} {shown : σ → τ} {s s' s₁ : σ} {r₁ : Relay}
  {inputs inputs' : List Input} {calls : List Call}

theorem Host.Impartial.ignores (h : host.Impartial shown) :
    host.Ignores shown Action.isCovert := fun action hc d s => by
  match action with
  | .note notice => simp [perform, Outcome.mapState, h.note]
  | .report (.mismatch modem model) => simp [perform, Outcome.mapState, h.mismatch]

/-- Surroundings that are watched, though not for differences, are as impartial as they were. -/
theorem Host.Impartial.watched (h : host.Impartial shown) :
    (host.watched Action.overt?).Impartial (Prod.map shown id) where
  toAnswersBy := h.toAnswersBy.watched Action.overt?
  mismatch modem model s := Prod.ext (h.mismatch modem model s.1) (List.append_nil _)

/-- Relays outside of the pass-through mode that have the same outline, among surroundings that show
the same. -/
structure Alike (shown : σ → τ) (r : Relay) (s : σ) (r' : Relay) (s' : σ) : Prop where
  outline : r.outline = r'.outline
  mode : r.mode ≠ .passThrough
  shown : shown s = shown s'

/-- Relays that are alike are so after calls that differ in the texts alone. -/
theorem Host.Impartial.handle (h : host.Impartial shown) {input input' : Input}
    (ha : Alike shown r s r' s') (hi : input.redacted = input'.redacted)
    (hcall : Relay.handle host input r s = .done () (r₁, s₁)) (hm : r₁.mode ≠ .passThrough) :
    ∃ r₁' s₁', Relay.handle host input' r' s' = .done () (r₁', s₁') ∧
      Alike shown r₁ s₁ r₁' s₁' := by
  have hstep : (r.step (host.nextTimer s) input).1.mode ≠ .passThrough := by
    obtain ⟨deliveries, -, rfl⟩ := handle_done hcall
    exact hm
  obtain ⟨houtline, hasked⟩ :=
    Prod.mk.inj (told_step ha.outline hi (host.nextTimer s) ha.mode hstep)
  rw [← filter_isCovert, ← filter_isCovert] at hasked
  obtain ⟨deliveries, s₁', rfl, hcall', hs₁⟩ :=
    h.toAnswersBy.handle h.ignores ha.shown (congrArg Outline.deliveries ha.outline) hasked hcall
  exact ⟨_, s₁', hcall', outline_deliver houtline deliveries, hm, hs₁⟩

/-- **What the modem says does not reach the client**, as long as the pass-through mode is not
entered. With other texts in the modem's lines and surroundings that answer alike, the same lines
are handed over, the same timers set and cancelled and the same timeouts reported, in the same
order, and after each call the relay has the same outline. -/
theorem outlines_handleAll (h : host.Impartial shown) (config : Config) (hasModem : Bool)
    {seen : List Action} (hi : inputs.map Input.redacted = inputs'.map Input.redacted)
    (hrun : handleAll (host.watched Action.overt?) inputs (.new config hasModem) (s, []) =
      .done calls (r, (s₁, seen)))
    (hm : ∀ c ∈ calls, c.after.mode ≠ .passThrough) (hs : shown s = shown s') :
    ∃ calls' r' s₁', handleAll (host.watched Action.overt?) inputs' (.new config hasModem)
        (s', []) = .done calls' (r', (s₁', seen)) ∧
      calls.map (·.after.outline) = calls'.map (·.after.outline) := by
  have hstart : Alike (Prod.map shown id) (.new config hasModem) (s, ([] : List Action))
      (.new config hasModem) (s', []) := ⟨rfl, by simp [Relay.new], Prod.ext hs rfl⟩
  obtain ⟨calls', r', ⟨s₁', seen'⟩, hrun', halike, heq⟩ :=
    handleAll_matched h.watched.handle Alike.outline hstart hi hrun hm
  obtain ⟨-, rfl⟩ := Prod.mk.inj halike.shown
  exact ⟨calls', r', s₁', hrun', heq⟩

theorem Journal.host_impartial :
    Journal.host.Impartial fun j => (j.nextTimer, j.refusing) where
  toAnswersBy := Journal.host_answersBy
  mismatch _ _ _ := rfl

/-- Answers of which one is compared, one times out, one is drained and one waits. -/
def whispers (first second : String) : List Input :=
  [.setMode .splitVerify, .line .modemManager "ATI", .line .model "A", .line .modem first,
    .line .model "B", .timer ⟨1⟩, .line .modem second, .setMode .wardModel,
    .setMode .splitVerify, .line .modem first]

theorem outlines_handleAll_whispers :
    ∃ calls r s seen calls' r' s', Journal.watch Action.overt? (whispers "A" "b") =
        .done calls (r, (s, seen)) ∧
      Journal.watch Action.overt? (whispers "a" "B") = .done calls' (r', (s', seen)) ∧
      calls.map (·.after.outline) = calls'.map (·.after.outline) ∧
      r.tally.matched = 1 ∧ r'.tally.mismatched = 1 := by
  have hrun := Outcome.eq_done (o := Journal.watch Action.overt? (whispers "A" "b"))
    (by decide +kernel)
  have hi : (whispers "A" "b").map Input.redacted = (whispers "a" "B").map Input.redacted := rfl
  obtain ⟨calls', r', s', hrun', heq⟩ :=
    outlines_handleAll Journal.host_impartial _ _ hi hrun (by decide +kernel) rfl
  have hr' := congrArg (·.state.1.tally.mismatched) hrun'
  exact ⟨_, _, _, _, calls', r', s', hrun, hrun', heq, by decide +kernel,
    hr'.symm.trans (by decide +kernel)⟩

end Relay

end ModemRelay
