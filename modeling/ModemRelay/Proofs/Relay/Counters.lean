import ModemRelay.Proofs.Relay.Move
import ModemRelay.Relay.Host

/-!
# The counters of a relay

A step adds to the counters and never looks at them: what it does does not depend on how many lines
have been taken so far or how many timers were stale (`step_recount`). Of the lines that a step
hands over each is counted once, as taken or as refused (`performAll_total`).
-/

namespace ModemRelay

namespace Deliveries

/-- The lines counted so far, taken and refused. -/
def total (d : Deliveries) : Nat :=
  d.sentToModemManager + d.sentToModem + d.postedToModel + d.sendFailures

@[simp] theorem total_accept (d : Deliveries) (e : Endpoint) :
    (d.accept e).total = d.total + 1 := by
  cases e <;> simp [accept, total] <;> omega

@[simp] theorem total_refuse (d : Deliveries) : d.refuse.total = d.total + 1 := rfl

/-- The lines that have been taken for an endpoint. -/
def taken (d : Deliveries) : Endpoint → Nat
  | .modemManager => d.sentToModemManager
  | .modem => d.sentToModem
  | .model => d.postedToModel

@[simp] theorem taken_accept (d : Deliveries) (target e : Endpoint) :
    (d.accept target).taken e = d.taken e + if target = e then 1 else 0 := by
  cases target <;> cases e <;> rfl

@[simp] theorem sendFailures_accept (d : Deliveries) (target : Endpoint) :
    (d.accept target).sendFailures = d.sendFailures := by
  cases target <;> rfl

end Deliveries

namespace Relay

/-- Whether a line is to be handed over. -/
def Action.isOffer : Action → Bool
  | .send .. | .undeliverable .. => true
  | _ => false

@[simp] theorem Action.isOffer_send (target : Endpoint) (line : String) :
    (Action.send target line).isOffer = true := rfl

@[simp] theorem Action.isOffer_cancel (timer : TimerHandle) :
    (Action.cancel timer).isOffer = false := rfl

@[simp] theorem Action.isOffer_report (f : Failure) : (Action.report f).isOffer = false := rfl

@[simp] theorem Action.isOffer_arm (delay : Duration) (x : ExchangeId) :
    (Action.arm delay x).isOffer = false := rfl

section

variable {σ : Type} {host : Host σ} {s s' : σ} {d d' : Deliveries} {action : Action}
  {actions : List Action}

theorem perform_total (h : perform host action d s = .done () (d', s')) :
    d'.total = d.total + [action].countP (·.isOffer) := by
  cases performs_of_done h with
  | taken => exact Deliveries.total_accept ..
  | refused | undeliverable => exact Deliveries.total_refuse _
  | armed | cancelled | reported | noted => rfl

/-- **Each line is counted once**, whether it is taken or refused. -/
theorem performAll_total (h : performAll host actions d s = .done () (d', s')) :
    d'.total = d.total + actions.countP (·.isOffer) := by
  induction actions generalizing d s with
  | nil =>
    cases h
    rfl
  | cons action rest ih =>
    obtain ⟨d₁, s₁, hact, hrest⟩ := performAll_cons_done h
    rw [ih hrest, perform_total hact, Nat.add_assoc, ← List.countP_append]
    rfl

end

/-! ## Counters are not read -/

/-- The relay with other lines counted and `n` more stale timers. -/
def recount (r : Relay) (n : Nat) (deliveries : Deliveries) : Relay :=
  { r with deliveries, tally.staleTimeouts := r.tally.staleTimeouts + n }

section

variable (r : Relay) (n : Nat) (d : Deliveries)

@[simp] theorem config_recount : (r.recount n d).config = r.config := rfl

@[simp] theorem hasModem_recount : (r.recount n d).hasModem = r.hasModem := rfl

@[simp] theorem mode_recount : (r.recount n d).mode = r.mode := rfl

@[simp] theorem pending_recount : (r.recount n d).pending = r.pending := rfl

@[simp] theorem owedModemLines_recount : (r.recount n d).owedModemLines = r.owedModemLines := rfl

@[simp] theorem deliveries_recount : (r.recount n d).deliveries = d := rfl

theorem complete_recount (modem model : String) :
    (r.recount n d).complete modem model =
      ((r.complete modem model).1.recount n d, (r.complete modem model).2) := by
  unfold complete
  split <;> rfl

theorem pairModemLine_recount (line : String) :
    (r.recount n d).pairModemLine line =
      ((r.pairModemLine line).1.recount n d, (r.pairModemLine line).2) := by
  unfold pairModemLine
  rw [pending_recount]
  split
  · next x modem model timer rest hp =>
    exact congrArg (fun p => (p.1, callOff timer ++ p.2))
      (complete_recount { r with pending := rest } n d line model)
  · rfl

theorem onModemLine_recount (line : String) :
    (r.recount n d).onModemLine line =
      ((r.onModemLine line).1.recount n d, (r.onModemLine line).2) := by
  unfold onModemLine
  rw [mode_recount, owedModemLines_recount]
  cases r.mode with
  | splitVerify => exact pairModemLine_recount r n d line
  | wardModel | passThrough => by_cases ho : 0 < r.owedModemLines <;> simp only [ho] <;> rfl

theorem pairModelLine_recount (timer : TimerHandle) (line : String) :
    (r.recount n d).pairModelLine timer line =
      ((r.pairModelLine timer line).1.recount n d, (r.pairModelLine timer line).2) := by
  unfold pairModelLine
  rw [pending_recount]
  split
  · next x modem model timer rest hp =>
    exact complete_recount { r with pending := rest } n d modem line
  · rfl

theorem onModelLine_recount (timer : TimerHandle) (line : String) :
    (r.recount n d).onModelLine timer line =
      ((r.onModelLine timer line).1.recount n d, (r.onModelLine timer line).2) := by
  unfold onModelLine
  rw [mode_recount]
  cases r.mode with
  | splitVerify => exact pairModelLine_recount r n d timer line
  | wardModel | passThrough => rfl

theorem onTimer_recount (x : ExchangeId) :
    (r.recount n d).onTimer x = ((r.onTimer x).1.recount n d, (r.onTimer x).2) := by
  unfold onTimer
  rw [pending_recount]
  split
  · rfl
  · simp [recount, Nat.add_right_comm]

theorem drain_recount (next : Mode) :
    (r.recount n d).drain next = ((r.drain next).1.recount n d, (r.drain next).2) := by
  by_cases hp : r.pending.toList = []
  · simp [drain, hp]
  · simp [drain, hp, recount]

theorem changeMode_recount (next : Mode) :
    (r.recount n d).changeMode next =
      ((r.changeMode next).1.recount n d, (r.changeMode next).2) := by
  unfold changeMode
  rw [hasModem_recount, mode_recount, drain_recount]
  split
  · rfl
  · split <;> rfl

/-- **What a step does is not a matter of the counters.** -/
theorem step_recount (timer : TimerHandle) (input : Input) :
    (r.recount n d).step timer input =
      ((r.step timer input).1.recount n d, (r.step timer input).2) := by
  cases input with
  | line source line =>
    cases source with
    | modemManager => rfl
    | modem => simp only [step, onModemLine_recount]
    | model => simp only [step, onModelLine_recount]
  | timer x => exact onTimer_recount r n d x
  | setMode next => exact changeMode_recount r n d next

end

end Relay

end ModemRelay
