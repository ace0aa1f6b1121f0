import ModemRelay.Proofs.Simulation.World

/-!
# Observations with their times

`Scene.seen` is what a view sees of a transcript, with the time of each observation. What carrying
out actions adds to it is seen at the current time.
-/

namespace ModemRelay.Simulation
open Relay

namespace Trace

/-- The timer that has been armed, and its exchange. -/
def armed? : Trace → Option (TimerHandle × ExchangeId)
  | armed timer x => some (timer, x)
  | _ => none

/-- The timer that has fired, and its exchange. -/
def expired? : Trace → Option (TimerHandle × ExchangeId)
  | fired timer x => some (timer, x)
  | _ => none

/-- The timer that has been cancelled, and whether it was still to fire. -/
def cancelled? : Trace → Option (TimerHandle × Bool)
  | cancelled timer live => some (timer, live)
  | _ => none

end Trace

namespace Scene

variable {σ σ' : Scene} {view : Trace → Option β} {trace : Trace} {d : Due} {input : Input}
  {mode : Mode} {a : Action} {actions : List Action} {e : Endpoint}
  {answer? : Endpoint → String → Option String}

/-- What a view sees of the transcript, with its times. -/
def seen (σ : Scene) (view : Trace → Option β) : List (Duration × β) :=
  σ.transcript.filterMap fun o => (view o.trace).map (o.time, ·)

theorem seen_record :
    (σ.record trace).seen view =
      σ.seen view ++ ((view trace).map (σ.agenda.now, ·)).toList :=
  filterMap_record _

theorem seen_record_none (h : view trace = none) : (σ.record trace).seen view = σ.seen view := by
  rw [seen_record, h, Option.map_none, Option.toList_none, List.append_nil]

/-- The lines that an endpoint has been sent, with their times. -/
def sendings (σ : Scene) (target : Endpoint) : List (Duration × String) :=
  σ.seen (Trace.sent? target)

theorem sendings_heard : (σ.heard d).sendings e = σ.sendings e :=
  filterMap_heard (fun _ _ _ => rfl) fun _ _ _ => rfl

theorem sendings_handled : (σ.handled input mode).sendings e = σ.sendings e :=
  filterMap_handled fun _ _ _ => rfl

theorem Acts.sendings_eq (h : Acts answer? a σ σ') :
    σ'.sendings e = σ.sendings e ++ (a.line? e).toList.map (σ.agenda.now, ·) := by
  cases h with
  | undelivered => exact (List.append_nil _).symm
  | armed | cancelled | reported => exact (seen_record_none rfl).trans (List.append_nil _).symm
  | @silent target line | @asked target line =>
    refine seen_record.trans ?_
    by_cases he : target = e <;> simp [Trace.sent?, Action.line?, he, sendings]

/-- What is sent in one step is sent at the same time. -/
theorem ActsAll.sendings_eq (h : ActsAll answer? actions σ σ') :
    σ'.sendings e =
      σ.sendings e ++ (actions.filterMap (·.line? e)).map (σ.agenda.now, ·) := by
  induction h with
  | nil => exact (List.append_nil _).symm
  | @cons a _ _ _ _ ha _ ih =>
    rw [ih, ha.sendings_eq, ha.now_eq, List.append_assoc, filterMap_cons_toList, List.map_append]

end Scene

end ModemRelay.Simulation
