import ModemRelay.Conformance.Bench
import ModemRelay.Proofs.Relay.Move

/-!
# What the bench does for a relay

The instruments never stop: they carry out the actions of a step one after the other (`act`), and of
what they hold only the log depends on the notes among the actions (`muted_foldl`).
-/

namespace ModemRelay.Conformance.Instruments
open Relay

/-- Carries out one action. -/
def act (i : Instruments) : Action → Instruments
  | .send target line => i.observe (sighting target line)
  | .undeliverable line mode => { i with log := i.log ++ [.noModem line mode] }
  | .arm _ exchange =>
    { i with
      nextTimer := ⟨i.nextTimer.val + 1⟩
      live := i.live ++ [(i.nextTimer, exchange)] }
  | .cancel timer => i.cancel timer
  | .report failure => i.observe (.failed failure)
  | .note notice => { i with log := i.log ++ [notice] }

theorem performAll_host (actions : List Action) (d : Deliveries) (i : Instruments) :
    ∃ d', performAll host actions d i = .done () (d', actions.foldl act i) := by
  induction actions generalizing d i with
  | nil => exact ⟨d, rfl⟩
  | cons a rest ih => cases a <;> exact ih ..

theorem handle_host (r : Relay) (input : Input) (i : Instruments) :
    ∃ d, r.handle host input i =
      .done () ({ (r.step i.nextTimer input).1 with deliveries := d },
        (r.step i.nextTimer input).2.foldl act i) := by
  obtain ⟨d, hd⟩ := performAll_host (r.step i.nextTimer input).2 r.deliveries i
  have hn : host.nextTimer i = i.nextTimer := rfl
  exact ⟨d, by simp only [handle, hn, hd]⟩

/-- The instruments without their log. -/
def muted (i : Instruments) : Instruments := { i with log := [] }

private theorem muted_act_congr {i j : Instruments} (h : i.muted = j.muted) (a : Action) :
    (i.act a).muted = (j.act a).muted := by
  obtain ⟨_, _, _, _, _, _⟩ := i
  obtain ⟨_, _, _, _, _, _⟩ := j
  simp only [muted, Instruments.mk.injEq, and_true] at h
  obtain ⟨rfl, rfl, rfl, rfl, rfl⟩ := h
  cases a with
  | cancel timer => simp only [act, cancel]; split <;> rfl
  | _ => rfl

private theorem muted_foldl_congr {i j : Instruments} (h : i.muted = j.muted)
    (actions : List Action) : (actions.foldl act i).muted = (actions.foldl act j).muted := by
  induction actions generalizing i j with
  | nil => exact h
  | cons a rest ih => exact ih (muted_act_congr h a)

/-- Notes leave their mark on the log alone. -/
theorem muted_foldl (actions : List Action) (i : Instruments) :
    (actions.foldl act i).muted = ((requests actions).foldl act i).muted := by
  induction actions generalizing i with
  | nil => rfl
  | cons a rest ih =>
    cases a with
    | note n =>
      have h : (i.act (.note n)).muted = i.muted := rfl
      exact (muted_foldl_congr h rest).trans (ih i)
    | _ => exact ih _

/-! ## Timers -/

/-- Cancelling the oldest timer. -/
theorem cancel_head {i : Instruments} (h : i.live = (timer, x) :: rest) :
    i.cancel timer = { i with live := rest, retired := x :: i.retired } := by
  simp [cancel, h]

end ModemRelay.Conformance.Instruments
