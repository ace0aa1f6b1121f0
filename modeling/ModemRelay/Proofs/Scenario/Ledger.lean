import ModemRelay.Proofs.Scenario.Pairing
import ModemRelay.Proofs.Simulation.Lanes

/-!
# The books of a verified session

While the answers of both sides are compared, each answer is at one of a few places: a model answer
has been judged or waits under a timer, and a modem answer has been used, is kept for the model, or
is still to come. A `Ledger` lists the places, and `Balanced` says that those judged are the ones
that `pairing` judges. There is one lemma for each entry that is made.
-/

namespace ModemRelay.Scenario
open Simulation

/-- The answers of both sides at some time in a session. -/
structure Ledger where
  /-- The model answers that have been judged. -/
  judged : List (Duration × String) := []
  /-- The model answers that wait for the modem. -/
  waiting : List (Duration × String) := []
  /-- The modem answers that wait for the model. -/
  kept : List (Duration × String) := []
  /-- The modem answers that are to come. -/
  coming : List (Slot × String) := []
  /-- All modem answers: those that have come and those that are to come. -/
  modems : List (Duration × String) := []
  /-- The timers of the model answers that wait. -/
  timers : List Slot := []
  now : Duration := .zero

namespace Ledger

/-- What holds of the books at all times. -/
structure Balanced (timeout : Duration) (l : Ledger) : Prop where
  unused : leftover timeout l.judged l.modems =
    l.kept ++ l.coming.map fun x => (x.1.due, x.2)
  oneSided : l.waiting = [] ∨ l.kept = []
  /-- To each model answer there is one of the modem's, come or to come. -/
  enough : l.judged.length + l.waiting.length ≤ l.modems.length
  deadlines : l.timers.map (·.due.nanos) = l.waiting.map (·.1.nanos + timeout.nanos)
  /-- A modem answer was set down before the timers that it may stop. -/
  ties : ∀ {i j : Nat} {x : Slot × String} {t : Slot},
    i ≤ j → l.coming[i]? = some x → l.timers[j]? = some t → x.1.key < t.key
  received : ∀ b ∈ l.kept, b.1 ≤ l.now

namespace Balanced

variable {timeout : Duration} {l : Ledger} {a b : Duration × String} {x : Slot × String} {t : Slot}
  {waiting kept : List (Duration × String)} {coming new : List (Slot × String)}
  {timers : List Slot} {now : Duration}

theorem length_timers (h : l.Balanced timeout) : l.timers.length = l.waiting.length := by
  have := congrArg List.length h.deadlines
  rwa [List.length_map, List.length_map] at this

/-- To each model answer that waits one of the modem's is to come. -/
theorem length_waiting_le (h : l.Balanced timeout) : l.waiting.length ≤ l.coming.length := by
  rcases h.oneSided with hw | hk
  · rw [hw]
    exact Nat.zero_le _
  · have hleft := congrArg List.length h.unused
    have hused := length_le_leftover timeout l.judged l.modems
    have henough := h.enough
    rw [hk, List.nil_append, List.length_map] at hleft
    omega

/-- The modem is asked for more. -/
theorem ask (h : l.Balanced timeout) (hn : l.now ≤ now) (new : List (Slot × String)) :
    { l with
      modems := l.modems ++ new.map fun x : Slot × String => (x.1.due, x.2)
      coming := l.coming ++ new
      now }.Balanced timeout ∧
      pairing timeout l.judged (l.modems ++ new.map fun x => (x.1.due, x.2)) =
        pairing timeout l.judged l.modems := by
  have hlen : l.judged.length ≤ l.modems.length := Nat.le_trans (Nat.le_add_right _ _) h.enough
  obtain ⟨hpairing, hleft⟩ := @pairing_append_modems timeout _ _
    (new.map fun x => (x.1.due, x.2)) hlen
  refine ⟨⟨?_, h.oneSided, ?_, h.deadlines, ?_, ?_⟩, hpairing⟩
  · rw [hleft, h.unused, List.map_append, List.append_assoc]
  · exact Nat.le_trans h.enough (by rw [List.length_append]; exact Nat.le_add_right _ _)
  · intro i j y t hij hy ht
    have hj : j < l.timers.length := (List.getElem?_eq_some_iff.mp ht).1
    have hi : i < l.coming.length := by
      have := h.length_waiting_le
      rw [h.length_timers] at hj
      omega
    rw [List.getElem?_append_left hi] at hy
    exact h.ties hij hy ht
  · exact fun b hb => Nat.le_trans (h.received b hb) hn

/-- A modem answer comes and is kept. -/
theorem keep (h : l.Balanced timeout) (hw : l.waiting = []) (hc : l.coming = x :: coming)
    (hn : l.now ≤ x.1.due) :
    { l with kept := l.kept ++ [(x.1.due, x.2)], coming, now := x.1.due }.Balanced timeout := by
  have htimers : l.timers = [] := List.eq_nil_of_length_eq_zero (by rw [h.length_timers, hw]; rfl)
  refine ⟨?_, .inl hw, h.enough, h.deadlines, ?_, ?_⟩
  · rw [h.unused, hc, List.map_cons, List.append_assoc]
    rfl
  · intro i j y t _ _ ht
    simp [htimers] at ht
  · intro b hb
    rcases List.mem_append.mp hb with hb | hb
    · exact Nat.le_trans (h.received b hb) hn
    · rw [List.mem_singleton.mp hb]
      exact Nat.le_refl _

/-- A modem answer comes before the timer of the first model answer that waits for it. -/
theorem stop (h : l.Balanced timeout) (hw : l.waiting = a :: waiting) (hc : l.coming = x :: coming)
    (ht : l.timers = t :: timers) (hlt : x.1 < t) :
    { l with judged := l.judged ++ [a], waiting, coming, timers, now := x.1.due }.Balanced timeout ∧
      pairing timeout (l.judged ++ [a]) l.modems =
        pairing timeout l.judged l.modems ++ [⟨a.2, some x.2⟩] := by
  have hkept : l.kept = [] := h.oneSided.resolve_left (by simp [hw])
  have hdeadlines := h.deadlines
  rw [hw, ht, List.map_cons, List.map_cons, List.cons.injEq] at hdeadlines
  have hleft := h.unused
  rw [hkept, hc, List.nil_append, List.map_cons] at hleft
  have hjudge : judge timeout a (leftover timeout l.judged l.modems) =
      (⟨a.2, some x.2⟩, coming.map fun x => (x.1.due, x.2)) := by
    have hle : x.1.due.nanos ≤ a.1.nanos + timeout.nanos := by
      rw [Slot.lt_def] at hlt
      omega
    rw [hleft]
    exact judge_of_le hle
  obtain ⟨hunused, hpairing⟩ := pairing_concat hjudge
  refine ⟨⟨?_, .inr hkept, ?_, hdeadlines.2, ?_, ?_⟩, hpairing⟩
  · rw [hunused, hkept]
    rfl
  · have henough := h.enough
    simp only [hw, List.length_append, List.length_cons, List.length_nil] at henough ⊢
    omega
  · intro i j y t' hij hy ht'
    refine @Balanced.ties _ _ h (i + 1) (j + 1) _ _ (Nat.succ_le_succ hij) ?_ ?_
    · rwa [hc, List.getElem?_cons_succ]
    · rwa [ht, List.getElem?_cons_succ]
  · simp [hkept]

/-- A model answer comes for the first modem answer that is kept. -/
theorem meet (h : l.Balanced timeout) (hk : l.kept = b :: kept) (hn : l.now ≤ a.1)
    (henough : l.judged.length + l.waiting.length < l.modems.length) :
    { l with judged := l.judged ++ [a], kept, now := a.1 }.Balanced timeout ∧
      pairing timeout (l.judged ++ [a]) l.modems =
        pairing timeout l.judged l.modems ++ [⟨a.2, some b.2⟩] := by
  have hw : l.waiting = [] := h.oneSided.resolve_right (by simp [hk])
  have hreceived := h.received
  rw [hk, List.forall_mem_cons] at hreceived
  have hleft := h.unused
  rw [hk, List.cons_append] at hleft
  have hjudge : judge timeout a (leftover timeout l.judged l.modems) =
      (⟨a.2, some b.2⟩, kept ++ l.coming.map fun x => (x.1.due, x.2)) := by
    rw [hleft]
    exact judge_of_le (Nat.le_trans (Nat.le_trans hreceived.1 hn) (Nat.le_add_right _ _))
  obtain ⟨hunused, hpairing⟩ := pairing_concat hjudge
  refine ⟨⟨hunused, .inl hw, ?_, h.deadlines, h.ties, ?_⟩, hpairing⟩
  · simp only [hw, List.length_append, List.length_cons, List.length_nil] at henough ⊢
    omega
  · exact fun b hb => Nat.le_trans (hreceived.2 b hb) hn

/-- A model answer comes that is to wait, under a timer that is set down last. -/
theorem wait (h : l.Balanced timeout) (hk : l.kept = [])
    (hd : t.due.nanos = a.1.nanos + timeout.nanos) (hx : ∀ x ∈ l.coming, x.1.key < t.key)
    (henough : l.judged.length + l.waiting.length < l.modems.length) (now : Duration) :
    { l with waiting := l.waiting ++ [a], timers := l.timers ++ [t], now }.Balanced timeout := by
  refine ⟨h.unused, .inr hk, ?_, ?_, ?_, ?_⟩
  · simp only [List.length_append, List.length_cons, List.length_nil]
    omega
  · rw [List.map_append, List.map_append, h.deadlines, List.map_singleton, List.map_singleton, hd]
  · intro i j y t' hij hy ht'
    rw [List.getElem?_append] at ht'
    split at ht'
    · exact h.ties hij hy ht'
    · cases List.mem_singleton.mp (List.mem_of_getElem? ht')
      exact hx y (List.mem_of_getElem? hy)
  · simp [hk]

/-- A timer fires before all modem answers that are to come. -/
theorem expire (h : l.Balanced timeout) (hw : l.waiting = a :: waiting)
    (ht : l.timers = t :: timers) (hx : ∀ x ∈ l.coming, t < x.1) (now : Duration) :
    { l with judged := l.judged ++ [a], waiting, timers, now }.Balanced timeout ∧
      pairing timeout (l.judged ++ [a]) l.modems =
        pairing timeout l.judged l.modems ++ [⟨a.2, none⟩] := by
  have hkept : l.kept = [] := h.oneSided.resolve_left (by simp [hw])
  have hdeadlines := h.deadlines
  rw [hw, ht, List.map_cons, List.map_cons, List.cons.injEq] at hdeadlines
  have hleft := h.unused
  rw [hkept, List.nil_append] at hleft
  have hjudge : judge timeout a (leftover timeout l.judged l.modems) =
      (⟨a.2, none⟩, leftover timeout l.judged l.modems) := by
    cases hc : l.coming with
    | nil =>
      have := h.length_waiting_le
      simp [hw, hc] at this
    | cons x coming =>
      have hkey : x.1.key < t.key := h.ties (Nat.le_refl 0) (by simp [hc]) (by simp [ht])
      have hlt := hx x (by simp [hc])
      rw [Slot.lt_def] at hlt
      have hlate : a.1.nanos + timeout.nanos < x.1.due.nanos := by omega
      rw [hleft, hc]
      exact judge_of_lt hlate
  obtain ⟨hunused, hpairing⟩ := pairing_concat hjudge
  refine ⟨⟨hunused.trans h.unused, .inr hkept, ?_, hdeadlines.2, ?_, ?_⟩, hpairing⟩
  · have henough := h.enough
    simp only [hw, List.length_append, List.length_cons, List.length_nil] at henough ⊢
    omega
  · intro i j y t' hij hy ht'
    refine h.ties (Nat.le_succ_of_le hij) hy ?_
    rwa [ht, List.getElem?_cons_succ]
  · simp [hkept]

end Balanced

end Ledger

end ModemRelay.Scenario
