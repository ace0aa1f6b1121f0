import Mathlib.Algebra.Group.Nat.Defs
import ModemRelay.Conformance.TwoQueues
import ModemRelay.Proofs.Conformance.Instruments

/-!
# The relay and the two queues

`Mirrors` relates a relay on the bench to the machine with two queues: the machine's queues are the
answers that wait in the relay's pending queue, and the live timers are those of its exchanges, in
their order. Every operation makes the same observable on both sides and keeps them related.
-/

namespace ModemRelay.Conformance
open Relay Instruments

/-- A relay and its instruments after at most `n` operations, and the machine in the same place. -/
structure Mirrors (n : Nat) (r : Relay) (i : Instruments) (m : TwoQueues) : Prop where
  sound : r.Sound
  hasModem : m.hasModem = r.hasModem
  mode : m.mode = r.mode
  owed : m.owed = r.owedModemLines
  modems : m.modemAnswers = r.pending.modemValues
  models : m.modelAnswers = r.pending.modelValues
  live : i.live = r.pending.timers
  retired : ∀ x ∈ i.retired, x.val < r.pending.nextId.val ∧ ∀ e ∈ r.pending.toList, e.id ≠ x
  noDouble : i.doubleCancels = 0
  counted : r.pending.nextId.val ≤ n

/-! ## The machine by cases -/

namespace TwoQueues

variable {m : TwoQueues} {word : Word}

theorem apply_modemLine_late (m : TwoQueues) (hm : m.mode ≠ .splitVerify) (ho : 0 < m.owed) :
    m.apply (.modemLine word) = ({ m with owed := m.owed - 1 }, []) := by
  unfold apply
  split <;> simp_all

theorem apply_modemLine_ward (m : TwoQueues) (hm : m.mode = .wardModel) (ho : m.owed = 0) :
    m.apply (.modemLine word) = (m, []) := by
  simp [apply, hm, ho]

theorem apply_modemLine_pass (m : TwoQueues) (hm : m.mode = .passThrough) (ho : m.owed = 0) :
    m.apply (.modemLine word) = (m, [.toModemManager word.text]) := by
  simp [apply, hm, ho]

theorem apply_modemLine_paired (m : TwoQueues) (hm : m.mode = .splitVerify)
    (hq : m.modemAnswers = []) (hw : m.modelAnswers = model :: rest) :
    m.apply (.modemLine word) =
      ({ m with modemAnswers := [], modelAnswers := rest }, pairs [word.text] [model]) := by
  simp [apply, hm, pair, hq, hw, pairs]

theorem apply_modemLine_first (m : TwoQueues) (hm : m.mode = .splitVerify)
    (hw : m.modelAnswers = []) :
    m.apply (.modemLine word) = ({ m with modemAnswers := m.modemAnswers ++ [word.text] }, []) := by
  simp [apply, hm, pair, hw, pairs]

theorem apply_modelLine_paired (m : TwoQueues) (hm : m.mode = .splitVerify)
    (hq : m.modemAnswers = modem :: rest) (hw : m.modelAnswers = []) :
    m.apply (.modelLine word) =
      ({ m with modemAnswers := rest, modelAnswers := [] }, pairs [modem] [word.text]) := by
  cases rest <;> simp [apply, hm, pair, hq, hw, pairs]

theorem apply_modelLine_first (m : TwoQueues) (hm : m.mode = .splitVerify)
    (hq : m.modemAnswers = []) :
    m.apply (.modelLine word) = ({ m with modelAnswers := m.modelAnswers ++ [word.text] }, []) := by
  simp [apply, hm, pair, hq, pairs]

theorem apply_setMode (m : TwoQueues) {mode : Mode} (hm : mode ≠ m.mode)
    (hh : mode ≠ .wardModel → m.hasModem = true) :
    m.apply (.setMode mode) =
      ({ m with
          mode
          modemAnswers := []
          modelAnswers := []
          owed := if mode = .splitVerify then 0 else m.owed + m.modelAnswers.length },
        m.modelAnswers.flatMap giveUp ++
          if mode = .passThrough then m.modemAnswers.map .toModemManager else []) := by
  have : ¬(mode.requiresModem && !m.hasModem) = true := by
    cases mode <;> simp_all [Mode.requiresModem]
  simp [apply, changeMode, hm, this]

end TwoQueues

theorem Instruments.foldl_verdict (i : Instruments) (modem model : String) :
    (verdict modem model).foldl act i =
      { i with observed := i.observed ++ TwoQueues.pairs [modem] [model] } := by
  by_cases h : modem = model <;> simp [verdict, h, TwoQueues.pairs, act, observe, sighting]

/-- Draining exchanges that the model has answered gives up on each of them in turn. -/
theorem Instruments.foldl_drain_modelFirst {l : List Exchange} (hl : ∀ e ∈ l, e.ModelFirst)
    {i : Instruments} (hi : i.live = l.filterMap fun e => e.timer.map (·, e.id)) (next : Mode) :
    (l.flatMap (drainRequests next)).foldl act i =
      { i with
        live := []
        retired := (l.map (·.id)).reverse ++ i.retired
        observed := i.observed ++ (l.filterMap (·.modelValue)).flatMap TwoQueues.giveUp } := by
  induction l generalizing i with
  | nil =>
    obtain ⟨nextTimer, live, retired, doubleCancels, observed, log⟩ := i
    simp_all
  | cons e rest ih =>
    obtain ⟨x, model, timer, rfl⟩ := hl e (by simp)
    simp only [List.filterMap_cons, Exchange.timer_ofModel, Exchange.id_ofModel,
      Option.map_some] at hi
    have hc := cancel_head hi
    rw [List.flatMap_cons, List.foldl_append, ih fun e he => hl e (by simp [he])]
    · simp [drainRequests, act, hc, observe, sighting, TwoQueues.giveUp]
    · simp [drainRequests, act, hc, observe]

/-- Draining exchanges that the modem has answered touches no timer. -/
theorem Instruments.foldl_drain_modemFirst {l : List Exchange} (hl : ∀ e ∈ l, e.ModemFirst)
    (i : Instruments) (next : Mode) :
    (l.flatMap (drainRequests next)).foldl act i =
      { i with
        observed := i.observed ++
          if next = .passThrough then
            (l.filterMap (·.modemValue)).map .toModemManager
          else
            [] } := by
  induction l generalizing i with
  | nil => simp
  | cons e rest ih =>
    obtain ⟨x, modem, rfl⟩ := hl e (by simp)
    rw [List.flatMap_cons, List.foldl_append, ih fun e he => hl e (by simp [he])]
    by_cases hn : next = .passThrough <;> simp [drainRequests, hn, act, observe, sighting]

namespace Mirrors

variable {n : Nat} {r r' : Relay} {i j : Instruments} {m : TwoQueues} {handle : TimerHandle}
  {actions : List Action}

/-- Neither the log nor what has been observed matters. -/
theorem congr (h : Mirrors n r i m) (hn : n ≤ k) (hl : j.live = i.live)
    (hr : j.retired = i.retired) (hd : j.doubleCancels = i.doubleCancels) : Mirrors k r j m where
  sound := h.sound
  hasModem := h.hasModem
  mode := h.mode
  owed := h.owed
  modems := h.modems
  models := h.models
  live := hl.trans h.live
  retired := hr ▸ h.retired
  noDouble := hd.trans h.noDouble
  counted := Nat.le_trans h.counted hn

/-! ## Lines -/

theorem command (h : Mirrors n r i m) (word : Word)
    (hm : Move r handle (.line .modemManager word.text) r' actions) :
    (actions.foldl act i).observed = i.observed ++ (m.apply (.command word)).2 ∧
      Mirrors (n + 1) r' (actions.foldl act i) (m.apply (.command word)).1 := by
  cases hm with
  | toModel hr | toModem hr | toBoth hr =>
    have hmode := h.mode.trans hr
    refine ⟨?_, h.congr (Nat.le_succ n) rfl rfl rfl⟩
    simp [TwoQueues.apply, hmode, act, observe, sighting]

/-- What the oldest exchange shows when it leaves. -/
theorem leave (h : Mirrors n r i m) {rest : PendingQueue} {e : Exchange}
    (hp : r.pending.toList = e :: rest.toList) (hn : rest.nextId = r.pending.nextId) :
    e.id.val < rest.nextId.val ∧ ∀ e' ∈ rest.toList, e'.id ≠ e.id := by
  refine ⟨hn ▸ h.sound.fresh e (by simp [hp]), fun e' he' hid => ?_⟩
  have hasc := h.sound.ascending
  rw [hp] at hasc
  have := (List.pairwise_cons.mp hasc).1 e' he'
  rw [hid] at this
  exact Nat.lt_irrefl _ this

/-- Exchanges of timers gone by do not come back when the oldest exchange leaves. -/
theorem retired_leave (h : Mirrors n r i m) {rest : PendingQueue} {e : Exchange}
    (hp : r.pending.toList = e :: rest.toList) (hn : rest.nextId = r.pending.nextId) :
    ∀ x ∈ i.retired, x.val < rest.nextId.val ∧ ∀ e ∈ rest.toList, e.id ≠ x := by
  intro x hx
  obtain ⟨hlt, hne⟩ := h.retired x hx
  exact ⟨hn ▸ hlt, fun e he => hne e (by simp [hp, he])⟩

/-- Nor do they when an exchange of a new number joins. -/
theorem retired_push (h : Mirrors n r i m) {q : PendingQueue} {e : Exchange}
    (hq : q.toList = r.pending.toList ++ [e]) (hid : e.id = r.pending.nextId)
    (hn : q.nextId = ⟨r.pending.nextId.val + 1⟩) :
    ∀ x ∈ i.retired, x.val < q.nextId.val ∧ ∀ e ∈ q.toList, e.id ≠ x := by
  intro x hx
  obtain ⟨hlt, hne⟩ := h.retired x hx
  refine ⟨hn ▸ Nat.lt_succ_of_lt hlt, fun e' he' => ?_⟩
  rw [hq, List.mem_append, List.mem_singleton] at he'
  rcases he' with he' | rfl
  · exact hne e' he'
  · rw [hid]
    exact fun heq => Nat.lt_irrefl _ (heq ▸ hlt)

theorem modemLine (h : Mirrors n r i m) (word : Word)
    (hm : Move r handle (.line .modem word.text) r' actions) :
    (actions.foldl act i).observed = i.observed ++ (m.apply (.modemLine word)).2 ∧
      Mirrors (n + 1) r' (actions.foldl act i) (m.apply (.modemLine word)).1 := by
  have hs := hm.sound h.sound
  have hn := Nat.le_succ_of_le h.counted
  cases hm with
  | modemLate hr ho =>
    rw [m.apply_modemLine_late (h.mode ▸ hr) (h.owed ▸ ho)]
    exact ⟨by simp, hs, h.hasModem, h.mode, congrArg (· - 1) h.owed, h.modems, h.models, h.live,
      h.retired, h.noDouble, hn⟩
  | modemDropped hr ho =>
    rw [m.apply_modemLine_ward (h.mode.trans hr) (h.owed.trans ho)]
    exact ⟨by simp, hs, h.hasModem, h.mode, h.owed, h.modems, h.models, h.live, h.retired,
      h.noDouble, hn⟩
  | modemRelayed hr ho =>
    rw [m.apply_modemLine_pass (h.mode.trans hr) (h.owed.trans ho)]
    exact ⟨rfl, h.congr (Nat.le_succ n) rfl rfl rfl⟩
  | @modemPaired x model timer rest _ hr hp hq =>
    obtain ⟨hmodels, hmodems, htimers⟩ := PendingQueue.views_of_cons_ofModel hp
    have hempty : r.pending.modemValues = [] := h.sound.modemValues_eq_nil (by simp [hmodels])
    rw [m.apply_modemLine_paired (h.mode.trans hr) (h.modems.trans hempty)
        (h.models.trans hmodels), List.foldl_cons, foldl_verdict, act,
      cancel_head (h.live.trans htimers)]
    refine ⟨rfl, hs, h.hasModem, h.mode, h.owed, (hmodems.symm.trans hempty).symm, rfl, rfl, ?_,
      h.noDouble, hq ▸ hn⟩
    simpa using ⟨h.leave hp hq, h.retired_leave hp hq⟩
  | modemFirst hr hp =>
    have hmodels := h.models.trans (PendingQueue.modelValues_of_modemFirst hp)
    rw [m.apply_modemLine_first (h.mode.trans hr) hmodels]
    refine ⟨by simp, hs, h.hasModem, h.mode, h.owed, by simp [h.modems], by simp [h.models],
      by simp [h.live], fun x hx => ?_, h.noDouble, Nat.succ_le_succ h.counted⟩
    exact h.retired_push (PendingQueue.toList_pushModem ..) rfl rfl x hx

theorem modelLine (h : Mirrors n r i m) (word : Word)
    (hm : Move r i.nextTimer (.line .model word.text) r' actions) :
    (actions.foldl act i).observed = i.observed ++ (m.apply (.modelLine word)).2 ∧
      Mirrors (n + 1) r' (actions.foldl act i) (m.apply (.modelLine word)).1 := by
  have hs := hm.sound h.sound
  have hn := Nat.le_succ_of_le h.counted
  cases hm with
  | modelRelayed hr =>
    refine ⟨?_, ?_⟩ <;> simp only [TwoQueues.apply, h.mode.trans hr]
    · rfl
    · exact h.congr (Nat.le_succ n) rfl rfl rfl
  | modelDropped hr =>
    refine ⟨?_, ?_⟩ <;> simp only [TwoQueues.apply, h.mode.trans hr]
    · simp
    · exact ⟨hs, h.hasModem, h.mode, h.owed, h.modems, h.models, h.live, h.retired, h.noDouble, hn⟩
  | @modelPaired x modem rest _ hr hp hq =>
    obtain ⟨hmodels, hmodems, htimers⟩ := PendingQueue.views_of_cons_ofModem hp
    have hempty : r.pending.modelValues = [] := h.sound.modelValues_eq_nil (by simp [hmodems])
    rw [m.apply_modelLine_paired (h.mode.trans hr) (h.modems.trans hmodems)
        (h.models.trans hempty), foldl_verdict]
    exact ⟨rfl, hs, h.hasModem, h.mode, h.owed, rfl, hempty.symm.trans hmodels,
      h.live.trans htimers, h.retired_leave hp hq, h.noDouble, hq ▸ hn⟩
  | modelFirst hr hp =>
    have hmodems := h.modems.trans (PendingQueue.modemValues_of_modelFirst hp)
    rw [m.apply_modelLine_first (h.mode.trans hr) hmodems]
    refine ⟨by simp [act], hs, h.hasModem, h.mode, h.owed, by simp [h.modems],
      by simp [h.models], by simp [act, h.live], fun x hx => ?_, h.noDouble,
      Nat.succ_le_succ h.counted⟩
    exact h.retired_push (PendingQueue.toList_pushModel ..) rfl rfl x hx

/-! ## Timers -/

theorem fireOldest (h : Mirrors n r i m) (hl : i.live = (timer, x) :: rest)
    (hm : Move r handle (.timer x) r' actions) :
    let j := { i with live := rest, retired := x :: i.retired }
    (actions.foldl act j).observed = i.observed ++ (m.apply .fireOldest).2 ∧
      Mirrors (n + 1) r' (actions.foldl act j) (m.apply .fireOldest).1 := by
  intro j
  have hs := hm.sound h.sound
  obtain ⟨model, tail, hp⟩ := h.sound.head_of_timers (h.live.symm.trans hl)
  cases hm with
  | @timeout _ model' timer' q hr hmem hq hnext =>
    have hhead : Exchange.ofModel x model timer ∈ r.pending.toList := hp ▸ List.mem_cons_self
    have heq := h.sound.eq_of_id hmem hhead rfl
    have hrest : q.toList = tail := by simpa [hp] using hq
    rw [← hrest] at hp
    obtain ⟨hmodels, hmodems, htimers⟩ := PendingQueue.views_of_cons_ofModel hp
    have hempty : r.pending.modemValues = [] := h.sound.modemValues_eq_nil (by simp [hmodels])
    have hrest : rest = q.timers := by
      have := hl.symm.trans (h.live.trans htimers)
      simpa using this
    have hmodel : model' = model := by simpa [Exchange.ofModel] using congrArg (·.modelValue) heq
    have hmach : m.apply .fireOldest =
        ({ m with modelAnswers := q.modelValues }, TwoQueues.giveUp model) := by
      simp [TwoQueues.apply, h.modems, hempty, h.models, hmodels]
    rw [hmach, hmodel]
    refine ⟨by simp [act, observe, sighting, TwoQueues.giveUp, j], hs, h.hasModem, h.mode, h.owed,
      h.modems.trans hmodems, rfl, hrest, ?_, h.noDouble, hnext ▸ Nat.le_succ_of_le h.counted⟩
    simpa [act, observe, j] using ⟨h.leave hp hnext, h.retired_leave hp hnext⟩
  | stale hno => exact (hno (.ofModel x model timer) (by simp [hp]) rfl (by simp)).elim

/-- Without a live timer there is nothing to give up on. -/
theorem fireOldest_idle (h : Mirrors n r i m) (hl : i.live = []) :
    m.apply .fireOldest = (m, []) := by
  have hmodels : m.modelAnswers = [] :=
    h.models.trans (h.sound.modelValues_of_timers_nil (h.live.symm.trans hl))
  simp only [TwoQueues.apply, hmodels]
  cases m.modemAnswers <;> rfl

theorem fireStale (h : Mirrors n r i m) (hbound : n < Bench.noExchange.val)
    (hm : Move r handle (.timer (i.retired.head?.getD Bench.noExchange)) r' actions) :
    (actions.foldl act i).observed = i.observed ++ (m.apply .fireStale).2 ∧
      Mirrors (n + 1) r' (actions.foldl act i) (m.apply .fireStale).1 := by
  have hs := hm.sound h.sound
  have hgone : ∀ e ∈ r.pending.toList, e.id ≠ i.retired.head?.getD Bench.noExchange := by
    intro e he
    cases hl : i.retired with
    | nil =>
      rintro hid
      have := h.sound.fresh e he
      have := h.counted
      simp only [hid, List.head?_nil, Option.getD_none] at *
      omega
    | cons x rest => exact (h.retired x (by simp [hl])).2 e he
  cases hm with
  | timeout hr hmem => exact (hgone _ hmem rfl).elim
  | stale =>
    exact ⟨by simp [TwoQueues.apply], hs, h.hasModem, h.mode, h.owed, h.modems, h.models, h.live,
      h.retired, h.noDouble, Nat.le_succ_of_le h.counted⟩

/-! ## Changes of mode -/

theorem setMode (h : Mirrors n r i m) (mode : Mode)
    (hm : Move r handle (.setMode mode) r' actions) :
    (actions.foldl act i).observed = i.observed ++ (m.apply (.setMode mode)).2 ∧
      Mirrors (n + 1) r' (actions.foldl act i) (m.apply (.setMode mode)).1 := by
  have hs := hm.sound h.sound
  cases hm with
  | modeRefused hr hh =>
    have hmach : m.apply (.setMode mode) = (m, []) := by
      simp [TwoQueues.apply, TwoQueues.changeMode, hr, h.hasModem, hh]
    rw [hmach]
    exact ⟨by simp, h.congr (Nat.le_succ n) rfl rfl rfl⟩
  | modeKept =>
    have hmach : m.apply (.setMode r.mode) = (m, []) := by
      simp [TwoQueues.apply, TwoQueues.changeMode, h.mode]
    rw [hmach]
    exact ⟨by simp, h.congr (Nat.le_succ n) rfl rfl rfl⟩
  | modeTaken hne hh =>
    have hmach := m.apply_setMode (h.mode ▸ hne) (h.hasModem ▸ hh)
    rw [hmach]
    have howed : m.owed + m.modelAnswers.length = r.owedModemLines + r.abandoned := by
      rw [h.owed, h.models, r.abandoned_eq_length]
    have hretired : ∀ x ∈ i.retired, x.val < r.pending.nextId.val :=
      fun x hx => (h.retired x hx).1
    rcases h.sound.oneSided with hp | hp
    · have hmodems := h.modems.trans (PendingQueue.modemValues_of_modelFirst hp)
      rw [foldl_drain_modelFirst hp h.live]
      refine ⟨?_, hs, h.hasModem, rfl, by rw [howed]; rfl, rfl, rfl, rfl, fun x hx => ?_,
        h.noDouble, Nat.le_succ_of_le h.counted⟩
      · simp [h.models, hmodems, PendingQueue.modelValues]
      · simp only [List.mem_append, List.mem_reverse, List.mem_map] at hx
        rcases hx with ⟨e, he, rfl⟩ | hx
        · exact ⟨h.sound.fresh e he, by simp [enter]⟩
        · exact ⟨hretired x hx, by simp [enter]⟩
    · have hmodels := h.models.trans (PendingQueue.modelValues_of_modemFirst hp)
      rw [foldl_drain_modemFirst hp]
      refine ⟨?_, hs, h.hasModem, rfl, by rw [howed]; rfl, rfl, rfl, ?_, fun x hx => ?_,
        h.noDouble, Nat.le_succ_of_le h.counted⟩
      · simp [h.modems, hmodels, PendingQueue.modemValues]
      · exact h.live.trans (PendingQueue.timers_of_modemFirst hp)
      · exact ⟨hretired x hx, by simp [enter]⟩

/-! ## All operations -/

/-- A step of the relay in which the machine has kept up is one that the machine keeps up with,
whatever is noted on the way and however many lines are taken. -/
theorem of_requests {obs : List Observation} {d : Deliveries} (r : Relay) (input : Input)
    (h : ((requests (r.step i.nextTimer input).2).foldl act i).observed = obs ∧
      Mirrors n (r.step i.nextTimer input).1
        ((requests (r.step i.nextTimer input).2).foldl act i) m) :
    ((r.step i.nextTimer input).2.foldl act i).observed = obs ∧
      Mirrors n { (r.step i.nextTimer input).1 with deliveries := d }
        ((r.step i.nextTimer input).2.foldl act i) m := by
  have hmuted := muted_foldl (r.step i.nextTimer input).2 i
  refine ⟨(congrArg Instruments.observed hmuted).trans h.1, ?_⟩
  have hlive := congrArg Instruments.live hmuted
  have hretired := congrArg Instruments.retired hmuted
  have hcancels := congrArg Instruments.doubleCancels hmuted
  have hs := h.2.congr (Nat.le_refl n) hlive hretired hcancels
  exact ⟨hs.sound.deliver d, hs.hasModem, hs.mode, hs.owed, hs.modems, hs.models, hs.live,
    hs.retired, hs.noDouble, hs.counted⟩

/-- **Every operation shows the same on both sides and keeps them in step.** -/
theorem apply {b : Bench} (h : Mirrors n b.relay b.instruments m) (hn : n < Bench.noExchange.val)
    (op : Operation) :
    (b.apply op).2 = (m.apply op).2 ∧
      Mirrors (n + 1) (b.apply op).1.relay (b.apply op).1.instruments (m.apply op).1 := by
  have hfresh : Mirrors n b.relay { b.instruments with observed := [], log := [] } m :=
    h.congr (Nat.le_refl n) rfl rfl rfl
  have hfeed : ∀ (input : Input) (i : Instruments) {m' : TwoQueues} {obs : List Observation},
      Bench.input { b.instruments with observed := [], log := [] } op = some (input, i) →
      (((requests (b.relay.step i.nextTimer input).2).foldl act i).observed = obs ∧
        Mirrors (n + 1) (b.relay.step i.nextTimer input).1
          ((requests (b.relay.step i.nextTimer input).2).foldl act i) m') →
      (b.apply op).2 = obs ∧
        Mirrors (n + 1) (b.apply op).1.relay (b.apply op).1.instruments m' := by
    intro input i m' obs hin hmove
    obtain ⟨d, hd⟩ := handle_host b.relay input i
    unfold Bench.apply
    simp only [hin, hd, Outcome.state]
    exact of_requests b.relay input hmove
  have hmove : ∀ input, Move b.relay b.instruments.nextTimer input _ _ := h.sound.move
  cases op with
  | command word => exact hfeed _ _ rfl (by simpa using hfresh.command word (hmove _))
  | modemLine word => exact hfeed _ _ rfl (by simpa using hfresh.modemLine word (hmove _))
  | modelLine word => exact hfeed _ _ rfl (by simpa using hfresh.modelLine word (hmove _))
  | setMode mode => exact hfeed _ _ rfl (by simpa using hfresh.setMode mode (hmove _))
  | fireStale => exact hfeed _ _ rfl (by simpa using hfresh.fireStale hn (hmove _))
  | fireOldest =>
    cases hl : b.instruments.live with
    | nil =>
      rw [hfresh.fireOldest_idle hl]
      have hin :
          Bench.input { b.instruments with observed := [], log := [] } .fireOldest = none := by
        simp [Bench.input, Bench.retireOldest, hl]
      unfold Bench.apply
      simpa [hin] using hfresh.congr (Nat.le_succ n) rfl rfl rfl
    | cons first rest =>
      obtain ⟨timer, x⟩ := first
      refine hfeed (.timer x) _ (by simp [Bench.input, Bench.retireOldest, hl]; rfl) ?_
      simpa using hfresh.fireOldest hl (hmove _)

theorem new (hasModem : Bool) :
    Mirrors 0 (Bench.new hasModem).relay (Bench.new hasModem).instruments { hasModem } where
  sound := .new ..
  hasModem := rfl
  mode := rfl
  owed := rfl
  modems := rfl
  models := rfl
  live := rfl
  retired := by simp [Bench.new]
  noDouble := rfl
  counted := Nat.le_refl 0

end Mirrors

/-! ## Whole runs -/

/-- The bench after operations in turn. -/
def Bench.applyAll (b : Bench) (ops : List Operation) : Bench :=
  ops.foldl (fun b op => (b.apply op).1) b

/-- The machine after operations in turn. -/
def TwoQueues.applyAll (m : TwoQueues) (ops : List Operation) : TwoQueues :=
  ops.foldl (fun m op => (m.apply op).1) m

theorem Mirrors.applyAll {b : Bench} {m : TwoQueues} {n : Nat}
    (h : Mirrors n b.relay b.instruments m) (ops : List Operation)
    (hn : n + ops.length ≤ Bench.noExchange.val) :
    Mirrors (n + ops.length) (b.applyAll ops).relay (b.applyAll ops).instruments
      (m.applyAll ops) := by
  induction ops generalizing n b m with
  | nil => exact h
  | cons op rest ih =>
    simp only [List.length_cons] at hn ⊢
    have := ih (h.apply (by omega) op).2 (by omega)
    rwa [Nat.add_right_comm] at this

theorem Mirrors.pending_eq {n : Nat} {r : Relay} {i : Instruments} {m : TwoQueues}
    (h : Mirrors n r i m) : m.pending = r.pending.size := by
  rw [TwoQueues.pending, h.modems, h.models, PendingQueue.size_eq]
  rcases h.sound.oneSided with hp | hp
  · rw [PendingQueue.modemValues_of_modelFirst hp, PendingQueue.length_modelValues hp]
    simp
  · rw [PendingQueue.modelValues_of_modemFirst hp, PendingQueue.length_modemValues hp]
    simp

/-- **The relay on the bench and the machine with two queues cannot be told apart.** After any
operations, the next one shows the same on both sides, and leaves both in the same mode with as many
answers pending; and the relay has never cancelled a timer that was not live. Exchange numbers stay
below that of the exchange that never was, as long as there are fewer operations than that. -/
theorem apply_eq_apply_twoQueues (hasModem : Bool) (ops : List Operation) (op : Operation)
    (h : (ops ++ [op]).length < 2 ^ 64 - 1) :
    let bench := ((Bench.new hasModem).applyAll ops).apply op
    let machine := (({ hasModem } : TwoQueues).applyAll ops).apply op
    bench.2 = machine.2 ∧ bench.1.relay.mode = machine.1.mode ∧
      bench.1.relay.pending.size = machine.1.pending ∧
      ((Bench.new hasModem).applyAll ops).instruments.doubleCancels = 0 ∧
      bench.1.instruments.doubleCancels = 0 := by
  intro bench machine
  rw [List.length_append, List.length_singleton] at h
  have hbound : Bench.noExchange.val = 2 ^ 64 - 1 := rfl
  have hrun := (Mirrors.new hasModem).applyAll ops (by omega)
  obtain ⟨hobs, hnext⟩ := hrun.apply (by omega) op
  exact ⟨hobs, hnext.mode.symm, hnext.pending_eq.symm, hrun.noDouble, hnext.noDouble⟩

/-- The two agree on a run in which one exchange is compared, one times out, and one is drained. -/
theorem apply_eq_apply_twoQueues_run :
    let ops : List Operation :=
      [.setMode .splitVerify, .modelLine ⟨0⟩, .modelLine ⟨1⟩, .modemLine ⟨2⟩, .modelLine ⟨3⟩,
        .fireOldest, .fireStale]
    let bench := ((Bench.new true).applyAll ops).apply (.setMode .passThrough)
    let machine := (({ hasModem := true } : TwoQueues).applyAll ops).apply (.setMode .passThrough)
    (ops ++ [Operation.setMode .passThrough]).length < 2 ^ 64 - 1 ∧
      bench.2 = [.failed (.timeout "AT+CGMI"), .toModemManager "AT+CGMI"] ∧
      bench.2 = machine.2 ∧ bench.1.relay.mode = machine.1.mode := by
  intro ops bench machine
  have h := apply_eq_apply_twoQueues true ops (.setMode .passThrough) (by decide)
  exact ⟨by decide, h.1.trans (by decide), h.1, h.2.1⟩

end ModemRelay.Conformance
