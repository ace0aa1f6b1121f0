import Mathlib.Data.List.Basic
import ModemRelay.Proofs.Relay.Calls

/-!
# Comparing answers however they interleave

While answers are compared, only their order on either side matters: the i-th answer of the modem is
compared with the i-th of the model, whichever of the two comes first and whatever comes in between
(`verdicts_handleAll`). Between two lines one of the sides is ahead, and the answers that it is
ahead by are those that are pending (`Compares`).
-/

namespace ModemRelay

namespace PendingQueue

/-- The answers of the pending exchanges, the modem's and the model's of each. -/
def answers (q : PendingQueue) : List (Option String × Option String) :=
  q.toList.map fun e => (e.modemValue, e.modelValue)

theorem answers_of_oneSided {q : PendingQueue} (h : q.OneSided) :
    q.answers = q.modemValues.map (some ·, none) ++ q.modelValues.map (none, some ·) := by
  rcases h with hs | hs
  · rw [modemValues_of_modelFirst hs, List.map_nil, List.nil_append, modelValues,
      List.map_filterMap, answers, ← List.filterMap_eq_map]
    refine List.filterMap_congr fun e he => ?_
    obtain ⟨x, model, timer, rfl⟩ := hs e he
    rfl
  · rw [modelValues_of_modemFirst hs, List.map_nil, List.append_nil, modemValues,
      List.map_filterMap, answers, ← List.filterMap_eq_map]
    refine List.filterMap_congr fun e he => ?_
    obtain ⟨x, modem, rfl⟩ := hs e he
    rfl

end PendingQueue

namespace Relay

/-- A failure that is reported, or a line for the client. -/
def Action.verdict? : Action → Option Action
  | .report failure => some (.report failure)
  | .send .modemManager line => some (.send .modemManager line)
  | _ => none

theorem Action.outward_verdict? : Action.Outward Action.verdict? :=
  ⟨fun _ => rfl, fun _ _ => rfl⟩

/-- What comes of the answers of both sides, as far as they both go. -/
def verdicts (modems models : List String) : List Action :=
  (modems.zip models).flatMap fun (modem, model) => verdict modem model

@[simp] theorem verdicts_nil_left (models : List String) : verdicts [] models = [] := rfl

@[simp] theorem verdicts_nil_right (modems : List String) : verdicts modems [] = [] := by
  simp [verdicts]

@[simp] theorem verdicts_cons (modem model : String) (modems models : List String) :
    verdicts (modem :: modems) (model :: models) =
      verdict modem model ++ verdicts modems models := rfl

/-- Answers that are added to both sides are compared after the surplus of the longer one. -/
theorem verdicts_append (modems models modems' models' : List String) :
    verdicts (modems ++ modems') (models ++ models') =
      verdicts modems models ++
        verdicts (modems.drop models.length ++ modems') (models.drop modems.length ++ models') := by
  induction modems generalizing models with
  | nil => simp
  | cons modem modems ih =>
    cases models with
    | nil => simp
    | cons model models => simp [ih]

theorem drop_length_append (as as' : List α) (bs bs' : List β) :
    (as ++ as').drop (bs ++ bs').length =
      (as.drop bs.length ++ as').drop (bs.drop as.length ++ bs').length := by
  induction as generalizing bs with
  | nil => simp
  | cons a as ih =>
    cases bs with
    | nil => simp
    | cons b bs => simpa [Nat.add_right_comm] using ih bs

variable {σ : Type} {host : Host σ} {r r' r'' : Relay} {s s' : σ} {handle : TimerHandle}
  {input : Input} {inputs : List Input} {actions asked asked' : List Action}
  {modems models modems' models' : List String}

/-- Answers are put to the comparison: as far as both sides go they are compared, and what one of
them is ahead by is pending. -/
structure Compares (r : Relay) (modems models : List String) (r' : Relay) (asked : List Action) :
    Prop where
  mode : r'.mode = .splitVerify
  oneSided : r'.pending.OneSided
  modems_eq : r'.pending.modemValues =
    (r.pending.modemValues ++ modems).drop (r.pending.modelValues ++ models).length
  models_eq : r'.pending.modelValues =
    (r.pending.modelValues ++ models).drop (r.pending.modemValues ++ modems).length
  asked_eq : asked = verdicts (r.pending.modemValues ++ modems) (r.pending.modelValues ++ models)

namespace Compares

theorem refl (hm : r.mode = .splitVerify) (ho : r.pending.OneSided) : Compares r [] [] r [] := by
  rcases ho with hs | hs
  · have hempty := PendingQueue.modemValues_of_modelFirst hs
    exact ⟨hm, .inl hs, by simp [hempty], by simp [hempty], by simp [hempty]⟩
  · have hempty := PendingQueue.modelValues_of_modemFirst hs
    exact ⟨hm, .inr hs, by simp [hempty], by simp [hempty], by simp [hempty]⟩

theorem trans (h : Compares r modems models r' asked)
    (h' : Compares r' modems' models' r'' asked') :
    Compares r (modems ++ modems') (models ++ models') r'' (asked ++ asked') where
  mode := h'.mode
  oneSided := h'.oneSided
  modems_eq := by
    rw [h'.modems_eq, h.modems_eq, h.models_eq, ← drop_length_append, List.append_assoc,
      List.append_assoc]
  models_eq := by
    rw [h'.models_eq, h.modems_eq, h.models_eq, ← drop_length_append, List.append_assoc,
      List.append_assoc]
  asked_eq := by
    rw [h'.asked_eq, h.asked_eq, h.modems_eq, h.models_eq, ← verdicts_append, List.append_assoc,
      List.append_assoc]

theorem deliver (h : Compares r modems models r' asked) (deliveries : Deliveries) :
    Compares r modems models { r' with deliveries } asked :=
  ⟨h.mode, h.oneSided, h.modems_eq, h.models_eq, h.asked_eq⟩

end Compares

theorem verdict?_verdict (modem model : String) :
    (verdict modem model).filterMap Action.verdict? = verdict modem model := by
  unfold verdict
  split <;> rfl

theorem Move.compares (m : Move r handle input r' actions) (hm : r.mode = .splitVerify)
    (ho : r.pending.OneSided) (hx : input.timer? = none) (hn : input.mode? = none) :
    Compares r (input.line? .modem).toList (input.line? .model).toList r'
      (actions.filterMap Action.verdict?) := by
  cases m with
  | toModel hr | toModem hr | modemDropped hr | modemRelayed hr | modelRelayed hr
  | modelDropped hr => simp [hm] at hr
  | modemLate hr => exact (hr hm).elim
  | timeout | stale => cases hx
  | modeRefused | modeKept | modeTaken => cases hn
  | toBoth => exact .refl hm ho
  | @modemPaired x model timer line rest hr hp hq =>
    obtain ⟨hmodels, hmodems, -⟩ := PendingQueue.views_of_cons_ofModel hp
    -- the oldest exchange is the model's, and so are all
    have hs : ∀ e ∈ r.pending.toList, e.ModelFirst := ho.resolve_right fun hs => by
      simpa using hs (.ofModel x model timer) (by simp [hp])
    have hempty := PendingQueue.modemValues_of_modelFirst hs
    have hrest : rest.modemValues = [] := hmodems.symm.trans hempty
    refine ⟨hm, .inl fun e he => hs e (by simp [hp, he]), ?_, ?_, ?_⟩
    · simp [hempty, hmodels, hrest]
    · simp [hempty, hmodels]
    · simp [hempty, hmodels, List.filterMap_cons, Action.verdict?, verdict?_verdict]
  | @modelPaired x modem line rest hr hp hq =>
    obtain ⟨hmodels, hmodems, -⟩ := PendingQueue.views_of_cons_ofModem hp
    have hs : ∀ e ∈ r.pending.toList, e.ModemFirst := ho.resolve_left fun hs => by
      simpa using hs (.ofModem x modem) (by simp [hp])
    have hempty := PendingQueue.modelValues_of_modemFirst hs
    have hrest : rest.modelValues = [] := hmodels.symm.trans hempty
    refine ⟨hm, .inr fun e he => hs e (by simp [hp, he]), ?_, ?_, ?_⟩
    · simp [hempty, hmodems]
    · simp [hempty, hmodems, hrest]
    · simp [hempty, hmodems, verdict?_verdict]
  | modemFirst hr hp =>
    have hempty := PendingQueue.modelValues_of_modemFirst hp
    refine ⟨hm, .inr ?_, by simp [hempty], by simp [hempty], by simp [hempty]⟩
    simpa [or_imp, forall_and] using hp
  | modelFirst hr hp =>
    have hempty := PendingQueue.modemValues_of_modelFirst hp
    refine ⟨hm, .inl ?_, by simp [hempty], by simp [hempty], by simp [hempty, Action.verdict?]⟩
    simpa [or_imp, forall_and] using hp

/-- **An answer is put to the comparison in one step**, also where there is no modem for the
commands. -/
theorem compares_step (handle : TimerHandle) (hm : r.mode = .splitVerify)
    (ho : r.pending.OneSided) (hx : input.timer? = none) (hn : input.mode? = none) :
    Compares r (input.line? .modem).toList (input.line? .model).toList (r.step handle input).1
      ((r.step handle input).2.filterMap Action.verdict?) := by
  rw [← Action.outward_verdict?.filterMap_requests]
  cases input with
  | timer => cases hx
  | setMode => cases hn
  | line source line =>
    cases source with
    | modem =>
      have hmove : Move r handle (.line .modem line) _ _ := move_pairModem ho hm
      exact Move.compares (by simpa [step, onModemLine, hm] using hmove) hm ho hx hn
    | model =>
      have hmove : Move r handle (.line .model line) _ _ := move_pairModel ho hm
      exact Move.compares (by simpa [step, onModelLine, hm] using hmove) hm ho hx hn
    | modemManager =>
      have hasked : (requests (r.onManagerLine line)).filterMap Action.verdict? = [] := by
        unfold onManagerLine offerToModem
        rw [hm]
        cases r.hasModem <;> rfl
      simpa [step, hasked] using Compares.refl hm ho

theorem compares_handleAll {calls : List Call} {seen seen' : List Action}
    (hm : r.mode = .splitVerify) (ho : r.pending.OneSided)
    (hi : ∀ input ∈ inputs, input.timer? = none ∧ input.mode? = none)
    (hrun : handleAll (host.watched Action.verdict?) inputs r (s, seen) =
      .done calls (r', (s', seen'))) :
    ∃ asked, seen' = seen ++ asked ∧
      Compares r (inputs.filterMap (·.line? .modem)) (inputs.filterMap (·.line? .model)) r'
        asked := by
  induction inputs generalizing r s seen calls with
  | nil =>
    cases hrun
    exact ⟨[], (List.append_nil _).symm, .refl hm ho⟩
  | cons input rest ih =>
    obtain ⟨r₁, ⟨s₁, seen₁⟩, later, hcall, hrest, rfl⟩ := handleAll_cons_done hrun
    obtain ⟨timer, deliveries, hr, hseen⟩ := handle_watched Action.outward_verdict? hcall
    rw [List.forall_mem_cons] at hi
    have hstep := (compares_step timer hm ho hi.1.1 hi.1.2).deliver deliveries
    rw [← hr] at hstep
    obtain ⟨asked, hseen', hlater⟩ := ih hstep.mode hstep.oneSided hi.2 hrest
    rw [filterMap_cons_toList, filterMap_cons_toList]
    refine ⟨_, ?_, hstep.trans hlater⟩
    rw [hseen', hseen, List.append_assoc]

/-- **What comes of the answers does not depend on how they interleave.** Where nothing was pending,
no timer fires and the mode is kept, the i-th answer of the modem is compared with the i-th of the
model, in order, and the surplus of the longer side is pending. -/
theorem verdicts_handleAll (host : Host σ) (inputs : List Input) (s : σ) {calls : List Call}
    {seen : List Action} (hm : r.mode = .splitVerify) (hp : r.pending.isEmpty = true)
    (hi : ∀ input ∈ inputs, input.timer? = none ∧ input.mode? = none)
    (hmodems : inputs.filterMap (·.line? .modem) = modems)
    (hmodels : inputs.filterMap (·.line? .model) = models)
    (hrun : handleAll (host.watched Action.verdict?) inputs r (s, []) =
      .done calls (r', (s', seen))) :
    seen = (modems.zip models).flatMap (fun (modem, model) =>
        (if modem = model then [] else [.report (.mismatch modem model)]) ++
          [.send .modemManager model]) ∧
      r'.pending.toList.map (fun e => (e.modemValue, e.modelValue)) =
        (modems.drop models.length).map (some ·, none) ++
          (models.drop modems.length).map (none, some ·) := by
  have hnil : r.pending.toList = [] := by simpa [PendingQueue.isEmpty_eq] using hp
  have hempty : r.pending.modemValues = [] ∧ r.pending.modelValues = [] := by
    simp [PendingQueue.modemValues, PendingQueue.modelValues, hnil]
  obtain ⟨asked, rfl, h⟩ := compares_handleAll hm (.inl (by simp [hnil])) hi hrun
  subst hmodems hmodels
  refine ⟨?_, ?_⟩
  · rw [h.asked_eq, hempty.1, hempty.2]
    rfl
  · rw [← PendingQueue.answers, PendingQueue.answers_of_oneSided h.oneSided, h.modems_eq,
      h.models_eq, hempty.1, hempty.2, List.nil_append, List.nil_append]

/-- Answers of which first the model is ahead and then the modem, with a client that takes none. -/
def overtaking : Outcome (Relay × Journal × List Action) (List Call) :=
  handleAll (Journal.host.watched Action.verdict?)
    [.line .model "A", .line .model "B", .line .modem "A", .line .modemManager "AT",
      .line .modem "b", .line .modem "C", .line .modem "D", .line .model "c", .line .modem "E"]
    { config := {}, hasModem := true, mode := .splitVerify }
    (⟨⟨1⟩, [.modemManager], #[], {}, #[]⟩, [])

theorem verdicts_handleAll_overtaking :
    ∃ calls r s seen, overtaking = .done calls (r, (s, seen)) ∧
      seen = [.send .modemManager "A", .report (.mismatch "b" "B"), .send .modemManager "B",
        .report (.mismatch "C" "c"), .send .modemManager "c"] ∧
      r.pending.toList.map (fun e => (e.modemValue, e.modelValue)) =
        [(some "D", none), (some "E", none)] := by
  have hrun := Outcome.eq_done (o := overtaking) (by decide +kernel)
  obtain ⟨hseen, hpending⟩ := verdicts_handleAll _ _ _ rfl rfl (by decide) rfl rfl hrun
  exact ⟨_, _, _, _, hrun, hseen, hpending⟩

end Relay

end ModemRelay
