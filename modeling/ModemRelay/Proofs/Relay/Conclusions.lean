import ModemRelay.Proofs.Relay.Calls
import ModemRelay.Proofs.Relay.Timers

/-!
# How exchanges are concluded

An exchange that leaves the queue is concluded in one go: its timer is called off where it still
runs, then a failure is reported where there is one, and right after it the model's answer is handed
to the client (`Concludes`). Where several exchanges leave at once, each of them is concluded before
the next one is, oldest first (`Orderly`). No other failures are reported, so that what is reported
as the client's answer is always what the client is offered next (`Handed`, `orderly_handle`).
-/

namespace ModemRelay.Relay

variable {r r' : Relay} {timer : TimerHandle} {input : Input} {e : Exchange}
  {ended before after : List Exchange} {actions actions' asked : List Action} {value : String}

/-! ## Answers that are handed over -/

/-- After each failure that is reported, the client is offered the answer that it names. -/
def Handed (asked : List Action) : Prop :=
  ∀ f later, .report f :: later <:+ asked →
    later.head? = some (.send .modemManager f.modelValue)

namespace Handed

theorem of_forall (h : ∀ a ∈ asked, a.failure? = none) : Handed asked :=
  fun _ _ hs => nomatch h _ (hs.subset List.mem_cons_self)

theorem append (h : Handed actions) (h' : Handed actions') : Handed (actions ++ actions') := by
  rintro f later ⟨earlier, heq⟩
  rcases List.append_eq_append_iff.mp heq with ⟨between, hfirst, hlater⟩ | ⟨between, -, hlater⟩
  · cases between with
    | nil => exact h' f later (hlater ▸ List.suffix_rfl)
    | cons a between =>
      obtain ⟨rfl, rfl⟩ := List.cons.inj hlater
      change (between ++ actions').head? = _
      rw [List.head?_append, h f between ⟨earlier, hfirst.symm⟩, Option.some_or]
  · exact h' f later ⟨between, hlater.symm⟩

theorem flatMap {share : Exchange → List Action} (h : ∀ e ∈ ended, Handed (share e)) :
    Handed (ended.flatMap share) := by
  induction ended with
  | nil => exact of_forall fun _ ha => nomatch ha
  | cons e rest ih =>
    rw [List.forall_mem_cons] at h
    exact h.1.append (ih h.2)

end Handed

/-! ## One exchange -/

/-- What is asked for to conclude an exchange with an answer of the model. -/
def conclusion (calledOff : Option TimerHandle) (failure : Option Failure) (value : String) :
    List Action :=
  calledOff.toList.map .cancel ++ failure.toList.map .report ++ [.send .modemManager value]

/-- An exchange that ends with a call of the given input is concluded by what is asked for. With an
answer of the model, one that it holds or one that comes, that answer is handed over once, after at
most one failure that names it, and before them no timer is called off but its own. Without one,
the modem's answer is passed on, if anything is. -/
def Concludes (input : Input) (e : Exchange) (asked : List Action) : Prop :=
  match e.modelValue.or (input.line? .model) with
  | some value => ∃ calledOff failure, asked = conclusion calledOff failure value ∧
      (∀ timer ∈ calledOff, e.timer = some timer) ∧ ∀ f ∈ failure, f.modelValue = value
  | none => asked = [] ∨ ∃ modem ∈ e.modemValue, asked = [.send .modemManager modem]

/-- A report is the last but one of the actions that conclude an exchange. -/
theorem handed_conclusion {calledOff : Option TimerHandle} {failure : Option Failure}
    (hf : ∀ f ∈ failure, f.modelValue = value) : Handed (conclusion calledOff failure value) := by
  have hcancel : Handed (calledOff.toList.map .cancel) := .of_forall (by simp [Action.failure?])
  rw [conclusion, List.append_assoc]
  refine hcancel.append ?_
  cases failure with
  | none => exact .of_forall (by simp [Action.failure?])
  | some f =>
    intro f' later hs
    rcases List.suffix_cons_iff.mp hs with heq | hs
    · obtain ⟨hreport, rfl⟩ := List.cons.inj heq
      cases hreport
      rw [hf f rfl]
      rfl
    · simpa using hs.subset List.mem_cons_self

theorem Concludes.handed (h : Concludes input e asked) : Handed asked := by
  unfold Concludes at h
  split at h
  · obtain ⟨calledOff, failure, rfl, -, hf⟩ := h
    exact handed_conclusion hf
  · refine .of_forall fun a ha => ?_
    rcases h with rfl | ⟨modem, -, rfl⟩
    · cases ha
    · cases List.mem_singleton.mp ha
      rfl

/-- Both answers to a command conclude an exchange, with a failure where they differ. -/
theorem verdict_eq (modem model : String) :
    verdict modem model =
      conclusion none (if modem = model then none else some (.mismatch modem model)) model := by
  unfold verdict conclusion
  split <;> rfl

/-- The failure that both answers come to names that of the model. -/
theorem modelValue_of_mismatch {modem model : String} {f : Failure}
    (hf : f ∈ if modem = model then none else some (.mismatch modem model)) :
    f.modelValue = model := by
  split at hf
  · cases hf
  · cases hf
    rfl

theorem concludes_drainRequests (next : Mode) (e : Exchange) :
    Concludes (.setMode next) e (drainRequests next e) := by
  unfold Concludes drainRequests
  cases hv : e.modelValue with
  | some model =>
    refine ⟨e.timer, some (.timeout model), ?_, fun _ h => h, fun f hf => by cases hf; rfl⟩
    simp [conclusion]
  | none =>
    dsimp only [Option.none_or, Input.line?]
    split
    · cases hm : e.modemValue with
      | none => exact .inl rfl
      | some modem => exact .inr ⟨modem, rfl, rfl⟩
    · exact .inl rfl

/-! ## All that end with a call -/

/-- What a call of the given input asks for, with the exchanges that end with it, oldest first.
Either each of them is concluded in its turn, or none of them ends, and then no timer is called off
and no failure is reported. -/
inductive Orderly (input : Input) : (ended : List Exchange) → (asked : List Action) → Prop
  | nothing {asked : List Action} (hc : ∀ a ∈ asked, a.cancelled? = none)
    (hf : ∀ a ∈ asked, a.failure? = none) : Orderly input [] asked
  | inTurn {ended : List Exchange} {share : Exchange → List Action}
    (hs : ∀ e ∈ ended, Concludes input e (share e)) :
    Orderly input ended (ended.flatMap share)

theorem Orderly.handed (h : Orderly input ended asked) : Handed asked := by
  cases h with
  | nothing _ hf => exact .of_forall hf
  | inTurn hs => exact .flatMap fun e he => (hs e he).handed

theorem Orderly.single (h : Concludes input e asked) : Orderly input [e] asked := by
  have : Orderly input [e] ([e].flatMap fun _ => asked) := .inTurn (by simpa using h)
  simpa using this

/-- The exchanges that have left the queue between two moments, oldest first. -/
def concluded (r r' : Relay) : List Exchange :=
  r.pending.toList.filter (· ∉ r'.pending.toList)

theorem concluded_of_subset (h : r.pending.toList ⊆ r'.pending.toList) : r.concluded r' = [] :=
  List.filter_eq_nil_iff.mpr fun e he => by simpa using h he

theorem concluded_of_nil (h : r'.pending.toList = []) : r.concluded r' = r.pending.toList :=
  List.filter_eq_self.mpr fun e _ => by simp [h]

theorem Sound.nodup_pending (h : r.Sound) : r.pending.toList.Nodup :=
  h.ascending.imp fun {e e'} hlt (heq : e = e') => Nat.ne_of_lt hlt (congrArg (·.id.val) heq)

/-- Where no exchange ends, nothing is called off and nothing reported. -/
theorem Orderly.of_kept (h : r.pending.toList ⊆ r'.pending.toList)
    (hc : ∀ a ∈ asked, a.cancelled? = none) (hf : ∀ a ∈ asked, a.failure? = none) :
    Orderly input (r.concluded r') asked :=
  concluded_of_subset h ▸ .nothing hc hf

/-- Where one exchange is taken out, it is the one that has left. -/
theorem Sound.concluded_of_middle (h : r.Sound) (hl : r.pending.toList = before ++ e :: after)
    (hl' : r'.pending.toList = before ++ after) : r.concluded r' = [e] := by
  have hn := h.nodup_pending
  rw [hl, List.nodup_middle, List.nodup_cons] at hn
  have hkept : ∀ e' ∈ before ++ after, ¬e' ∉ before ++ after := fun _ he' => not_not_intro he'
  rw [List.forall_mem_append] at hkept
  rw [concluded, hl, hl', List.filter_append, List.filter_cons_of_pos (by simpa using hn.1),
    List.filter_eq_nil_iff.mpr (by simpa using hkept.1),
    List.filter_eq_nil_iff.mpr (by simpa using hkept.2), List.nil_append]

/-- Where the oldest exchange is taken out, it is the one that has left. -/
theorem Sound.concluded_of_head (h : r.Sound) (hl : r.pending.toList = e :: r'.pending.toList) :
    r.concluded r' = [e] := by
  have hmiddle : r.pending.toList = [] ++ e :: r'.pending.toList := hl
  exact h.concluded_of_middle hmiddle rfl

/-- **Each move concludes the exchanges that it ends in turn.** -/
theorem Move.orderly (m : Move r timer input r' actions) (h : r.Sound) :
    Orderly input (r.concluded r') actions := by
  cases m with
  | toModel | toModem | toBoth | modemLate | modemDropped | modemRelayed | modelRelayed
  | modelDropped | stale | modeRefused | modeKept =>
    exact .of_kept (List.Subset.refl _) (by simp [Action.cancelled?]) (by simp [Action.failure?])
  | modemFirst | modelFirst =>
    exact .of_kept (by simp) (by simp [Action.cancelled?]) (by simp [Action.failure?])
  | @modemPaired x model running line rest _ hp =>
    rw [h.concluded_of_head hp, verdict_eq]
    exact .single ⟨some running, _, rfl, fun _ ht => ht, fun f => modelValue_of_mismatch⟩
  | @modelPaired x modem line rest _ hp =>
    rw [h.concluded_of_head hp, verdict_eq]
    exact .single ⟨none, _, rfl, (fun _ ht => nomatch ht), fun f => modelValue_of_mismatch⟩
  | @timeout x model expired rest _ he hl =>
    obtain ⟨e, before, after, -, hid, hp, hrest⟩ :=
      List.exists_of_eraseP he (p := (·.id == x)) (beq_self_eq_true x)
    -- no two exchanges have one number, so it is the exchange of the timer that is taken out
    cases h.eq_of_id (hp ▸ List.mem_append_right _ List.mem_cons_self) he (eq_of_beq hid)
    rw [h.concluded_of_middle hp (hl.trans hrest)]
    exact .single ⟨none, some (.timeout model), rfl, (fun _ ht => nomatch ht),
      fun f hf => by cases hf; rfl⟩
  | modeTaken =>
    rw [concluded_of_nil rfl]
    exact .inTurn fun e _ => concludes_drainRequests _ e

/-- **A report comes right before its answer, and exchanges are concluded one by one.** In whichever
state calls have left a relay, among surroundings that take lines or refuse them as they like,
whatever the next call reports as the client's answer is what the client is offered next. Each
exchange that ends with the call is concluded on its own, in the order of the queue. -/
theorem orderly_handle {σ : Type} (host : Host σ) (inputs : List Input) (config : Config)
    (hasModem : Bool) (s : σ) {s₁ s₂ : σ} {calls : List Call} {past seen : List Action}
    (hrun : handleAll (host.watched Action.asked?) inputs (.new config hasModem) (s, []) =
      .done calls (r, (s₁, past)))
    (hcall : handle (host.watched Action.asked?) input r (s₁, past) =
      .done () (r', (s₂, seen))) :
    ∃ asked, seen = past ++ asked ∧ Handed asked ∧ Orderly input (r.concluded r') asked := by
  have h : r.Sound := sound_handleAll (.new config hasModem) hrun
  obtain ⟨r₁, actions, deliveries, hmove, rfl, hseen, -⟩ :=
    h.move_watched Action.outward_asked? hcall
  rw [hmove.filterMap_asked?] at hseen
  have ho : Orderly input (r.concluded r₁) actions := hmove.orderly h
  exact ⟨actions, hseen, ho.handed, ho⟩

/-- Two answers of the model wait for the modem, and the client refuses all lines. -/
def unheard : Outcome (Relay × Journal × List Action) (List Call) :=
  handleAll (Journal.host.watched Action.asked?)
    [.setMode .splitVerify, .line .model "A", .line .model "B"] (.new {} true)
    (⟨⟨1⟩, [.modemManager], #[], {}, #[]⟩, [])

theorem orderly_handle_unheard :
    ∃ calls r s past r' s' seen asked, unheard = .done calls (r, (s, past)) ∧
      handle (Journal.host.watched Action.asked?) (.setMode .passThrough) r (s, past) =
        .done () (r', (s', seen)) ∧
      seen = past ++ asked ∧ Handed asked ∧
      Orderly (.setMode .passThrough) (r.concluded r') asked ∧
      (r.concluded r').map (·.modelValue) = [some "A", some "B"] ∧
      seen.drop 2 = conclusion (some ⟨1⟩) (some (.timeout "A")) "A" ++
        conclusion (some ⟨2⟩) (some (.timeout "B")) "B" := by
  have hrun := Outcome.eq_done (o := unheard) (by decide +kernel)
  have hcall := Outcome.eq_done (o := handle (Journal.host.watched Action.asked?)
    (.setMode .passThrough) unheard.state.1 unheard.state.2) (by decide +kernel)
  obtain ⟨asked, hseen, hhanded, ho⟩ := orderly_handle _ _ _ _ _ hrun hcall
  exact ⟨_, _, _, _, _, _, _, asked, hrun, hcall, hseen, hhanded, ho, by decide +kernel,
    by decide +kernel⟩

end ModemRelay.Relay
