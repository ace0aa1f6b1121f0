import ModemRelay.Duration
import ModemRelay.Failure

/-!
# Pairing answers by position

Answers carry no mark of the command that they belong to. The relay goes by position: the model's
answers are judged in order, each against the first modem answer that no earlier one was compared
with. `pairing` says what comes of that, given the times at which the answers are received.
-/

namespace ModemRelay

/-- A model answer and the modem answer that it is compared with, if one comes in time. -/
structure Judgement where
  model : String
  modem : Option String
  deriving DecidableEq

namespace Judgement

/-- The failure that is reported. -/
def failure? (j : Judgement) : Option Failure :=
  match j.modem with
  | some modem => if modem = j.model then none else some (.mismatch modem j.model)
  | none => some (.timeout j.model)

/-- Whether both sides have given the same answer. -/
def agrees (j : Judgement) : Bool := j.modem = some j.model

/-- The model answer, where it is compared with one of the modem's. -/
def compared? (j : Judgement) : Option String := j.modem.map fun _ => j.model

variable {js : List Judgement}

theorem timeouts_eq_zero_iff :
    (js.filterMap (·.failure?)).countP (·.isTimeout) = 0 ↔ ∀ j ∈ js, j.modem ≠ none := by
  simp only [List.countP_eq_zero, List.mem_filterMap, forall_exists_index, and_imp]
  constructor
  · intro h j hj hnone
    exact h (.timeout j.model) j hj (by simp [failure?, hnone]) rfl
  · rintro h f ⟨model, modem⟩ hj hf
    cases modem with
    | none => exact (h _ hj rfl).elim
    | some modem =>
      simp only [failure?, Option.ite_none_left_eq_some, Option.some.injEq] at hf
      rw [← hf.2]
      simp [Failure.isTimeout]

/-- No mismatch is reported where the answers that are compared agree, one by one. -/
theorem mismatches_eq_zero_iff :
    (js.filterMap (·.failure?)).countP (!·.isTimeout) = 0 ↔
      js.filterMap (·.compared?) = js.filterMap (·.modem) := by
  induction js with
  | nil => simp
  | cons j js ih =>
    obtain ⟨model, modem⟩ := j
    cases modem with
    | none => simpa [failure?, compared?, Failure.isTimeout] using ih
    | some modem =>
      by_cases heq : modem = model
      · simpa [failure?, compared?, heq] using ih
      · simp [failure?, compared?, heq, Failure.isTimeout, Ne.symm heq]

theorem length_compared :
    (js.filterMap (·.compared?)).length = (js.filterMap (·.modem)).length := by
  simp [List.length_filterMap_eq_countP, compared?]

end Judgement

/-- Judges a model answer against the modem answers that are left. The modem has the response
timeout from the time of the model answer on, the last instant included. -/
def judge (timeout : Duration) (a : Duration × String) :
    List (Duration × String) → Judgement × List (Duration × String)
  | [] => (⟨a.2, none⟩, [])
  | b :: modems =>
    if b.1.nanos ≤ a.1.nanos + timeout.nanos then (⟨a.2, some b.2⟩, modems)
    else (⟨a.2, none⟩, b :: modems)

/-- The judgements on the model answers, in order. -/
def pairing (timeout : Duration) :
    List (Duration × String) → List (Duration × String) → List Judgement
  | [], _ => []
  | a :: models, modems =>
    (judge timeout a modems).1 :: pairing timeout models (judge timeout a modems).2

/-- The modem answers that no model answer is compared with. -/
def leftover (timeout : Duration) (models modems : List (Duration × String)) :
    List (Duration × String) :=
  models.foldl (fun rest a => (judge timeout a rest).2) modems

variable {timeout : Duration} {a b : Duration × String}
  {models models' modems more kept : List (Duration × String)}

theorem judge_of_le (h : b.1.nanos ≤ a.1.nanos + timeout.nanos) :
    judge timeout a (b :: modems) = (⟨a.2, some b.2⟩, modems) := if_pos h

theorem judge_of_lt (h : a.1.nanos + timeout.nanos < b.1.nanos) :
    judge timeout a (b :: modems) = (⟨a.2, none⟩, b :: modems) := if_neg (Nat.not_le_of_lt h)

theorem judge_append (h : modems ≠ []) :
    judge timeout a (modems ++ more) =
      ((judge timeout a modems).1, (judge timeout a modems).2 ++ more) := by
  cases modems with
  | nil => exact (h rfl).elim
  | cons b modems =>
    simp only [judge, List.cons_append]
    split <;> rfl

theorem length_judge_le (timeout : Duration) (a : Duration × String)
    (modems : List (Duration × String)) : (judge timeout a modems).2.length ≤ modems.length := by
  cases modems with
  | nil => exact Nat.le_refl _
  | cons b modems =>
    simp only [judge]
    split <;> simp

theorem length_le_judge (timeout : Duration) (a : Duration × String)
    (modems : List (Duration × String)) :
    modems.length ≤ (judge timeout a modems).2.length + 1 := by
  cases modems with
  | nil => exact Nat.zero_le _
  | cons b modems =>
    simp only [judge]
    split <;> simp

/-! ## More model answers -/

theorem leftover_cons :
    leftover timeout (a :: models) modems = leftover timeout models (judge timeout a modems).2 :=
  rfl

theorem leftover_append :
    leftover timeout (models ++ models') modems =
      leftover timeout models' (leftover timeout models modems) := List.foldl_append

theorem pairing_append :
    pairing timeout (models ++ models') modems =
      pairing timeout models modems ++
        pairing timeout models' (leftover timeout models modems) := by
  induction models generalizing modems with
  | nil => rfl
  | cons a models ih => exact congrArg _ ih

/-- One more model answer is judged against the modem answers that are left. -/
theorem pairing_concat {j : Judgement} {rest : List (Duration × String)}
    (h : judge timeout a (leftover timeout models modems) = (j, rest)) :
    leftover timeout (models ++ [a]) modems = rest ∧
      pairing timeout (models ++ [a]) modems = pairing timeout models modems ++ [j] := by
  rw [leftover_append, leftover_cons, pairing_append, pairing, h]
  exact ⟨rfl, rfl⟩

theorem length_leftover_le (timeout : Duration) (models modems : List (Duration × String)) :
    (leftover timeout models modems).length ≤ modems.length := by
  induction models generalizing modems with
  | nil => exact Nat.le_refl _
  | cons a models ih => exact Nat.le_trans (ih _) (length_judge_le ..)

theorem length_le_leftover (timeout : Duration) (models modems : List (Duration × String)) :
    modems.length ≤ (leftover timeout models modems).length + models.length := by
  induction models generalizing modems with
  | nil => exact Nat.le_refl _
  | cons a models ih =>
    have hrest := ih (judge timeout a modems).2
    have hjudge := length_le_judge timeout a modems
    rw [leftover_cons, List.length_cons]
    omega

/-! ## More modem answers -/

/-- Modem answers that come later than all that are needed make no difference. -/
theorem pairing_append_modems (h : models.length ≤ modems.length) :
    pairing timeout models (modems ++ more) = pairing timeout models modems ∧
      leftover timeout models (modems ++ more) = leftover timeout models modems ++ more := by
  induction models generalizing modems with
  | nil => exact ⟨rfl, rfl⟩
  | cons a models ih =>
    have hne : modems ≠ [] := by
      rintro rfl
      exact Nat.not_succ_le_zero _ h
    have hjudge := length_le_judge timeout a modems
    have hlen : models.length ≤ (judge timeout a modems).2.length := by
      rw [List.length_cons] at h
      omega
    obtain ⟨hpairing, hleft⟩ := ih hlen
    rw [pairing, pairing, leftover_cons, leftover_cons, judge_append hne]
    exact ⟨congrArg _ hpairing, hleft⟩

/-- Modem answers that are left over make no difference. -/
theorem pairing_of_leftover (h : leftover timeout models (modems ++ more) = kept ++ more) :
    pairing timeout models modems = pairing timeout models (modems ++ more) ∧
      leftover timeout models modems = kept := by
  induction models generalizing modems with
  | nil => exact ⟨rfl, List.append_cancel_right h⟩
  | cons a models ih =>
    cases modems with
    | cons b modems =>
      rw [leftover_cons, judge_append (by simp)] at h
      obtain ⟨hpairing, hleft⟩ := ih h
      rw [pairing, pairing, judge_append (by simp)]
      exact ⟨congrArg _ hpairing, hleft⟩
    | nil =>
      cases more with
      | nil =>
        exact ⟨rfl, (@ih [] h).2⟩
      | cons c more =>
        -- were the first of them compared with the model answer, it would not be left over
        have hlate : a.1.nanos + timeout.nanos < c.1.nanos := by
          refine Nat.lt_of_not_le fun hle => ?_
          have hshort := length_leftover_le timeout models more
          rw [List.nil_append, leftover_cons, judge_of_le hle] at h
          rw [h, List.length_append, List.length_cons] at hshort
          omega
        rw [List.nil_append, leftover_cons, judge_of_lt hlate] at h
        obtain ⟨hpairing, hleft⟩ := @ih [] h
        rw [pairing, pairing, List.nil_append, judge_of_lt hlate]
        exact ⟨congrArg _ hpairing, hleft⟩

/-! ## Answers in time -/

/-- Where each modem answer is in time for the model answer at its position, the two are
compared. -/
theorem pairing_of_inTime (hl : models.length ≤ modems.length)
    (h : ∀ x ∈ models.zip modems, x.2.1.nanos ≤ x.1.1.nanos + timeout.nanos) :
    pairing timeout models modems =
        List.zipWith (fun ours theirs => ⟨ours, some theirs⟩) (models.map (·.2))
          (modems.map (·.2)) ∧
      leftover timeout models modems = modems.drop models.length := by
  induction models generalizing modems with
  | nil => exact ⟨rfl, rfl⟩
  | cons a models ih =>
    cases modems with
    | nil => exact (Nat.not_succ_le_zero _ hl).elim
    | cons b modems =>
      rw [List.zip_cons_cons, List.forall_mem_cons] at h
      obtain ⟨hpairing, hleft⟩ := ih (Nat.le_of_succ_le_succ hl) h.2
      rw [pairing, leftover_cons, judge_of_le h.1]
      exact ⟨congrArg _ hpairing, hleft⟩

private theorem inTime_of_pairing (h : ∀ j ∈ pairing timeout models modems, j.modem ≠ none) :
    ∀ x ∈ models.zip modems, x.2.1.nanos ≤ x.1.1.nanos + timeout.nanos := by
  induction models generalizing modems with
  | nil => simp
  | cons a models ih =>
    rw [pairing, List.forall_mem_cons] at h
    cases modems with
    | nil => simp
    | cons b modems =>
      have hle : b.1.nanos ≤ a.1.nanos + timeout.nanos := Nat.le_of_not_lt fun hlt =>
        h.1 (by rw [judge_of_lt hlt])
      rw [judge_of_le hle] at h
      rw [List.zip_cons_cons, List.forall_mem_cons]
      exact ⟨hle, ih h.2⟩

/-- All model answers are compared exactly where each modem answer is in time for the model answer
at its position. -/
theorem pairing_modem_ne_none (hl : models.length ≤ modems.length) :
    (∀ j ∈ pairing timeout models modems, j.modem ≠ none) ↔
      ∀ x ∈ models.zip modems, x.2.1.nanos ≤ x.1.1.nanos + timeout.nanos := by
  refine ⟨inTime_of_pairing, fun h j hj => ?_⟩
  rw [(pairing_of_inTime hl h).1] at hj
  obtain ⟨i, hi, rfl⟩ := List.mem_iff_getElem.mp hj
  simp

/-- The modem answers are used in order, and none is passed over. -/
theorem modems_isPrefix (timeout : Duration) (models modems : List (Duration × String)) :
    (pairing timeout models modems).filterMap (·.modem) <+: modems.map (·.2) := by
  induction models generalizing modems with
  | nil => exact List.nil_prefix
  | cons a models ih =>
    cases modems with
    | nil => simpa [pairing, judge] using ih []
    | cons b modems =>
      rw [pairing]
      by_cases hle : b.1.nanos ≤ a.1.nanos + timeout.nanos
      · simpa [judge_of_le hle] using ih modems
      · simpa [judge_of_lt (Nat.lt_of_not_le hle)] using ih (b :: modems)

/-- The model answers that a modem answer is in time for. -/
def inTime (timeout : Duration) (models modems : List (Duration × String)) : List String :=
  (pairing timeout models modems).filterMap (·.compared?)

theorem length_inTime_le : (inTime timeout models modems).length ≤ modems.length := by
  have hle := (modems_isPrefix timeout models modems).length_le
  rw [List.length_map] at hle
  exact Nat.le_trans (Nat.le_of_eq Judgement.length_compared) hle

/-- Where no modem answer is left over, more model answers are answered too late. -/
theorem inTime_append (h : leftover timeout models modems = []) :
    inTime timeout (models ++ models') modems = inTime timeout models modems := by
  have hnone : ∀ models', (pairing timeout models' []).filterMap (·.compared?) = [] := by
    intro models'
    induction models' with
    | nil => rfl
    | cons a models' ih => exact ih
  rw [inTime, pairing_append, h, List.filterMap_append, hnone, List.append_nil]
  rfl

/-- **Nothing is found to differ exactly where the model answers that are compared are the first
answers of the modem.** -/
theorem mismatches_pairing :
    ((pairing timeout models modems).filterMap (·.failure?)).countP (!·.isTimeout) = 0 ↔
      inTime timeout models modems <+: modems.map (·.2) := by
  rw [Judgement.mismatches_eq_zero_iff, inTime]
  constructor
  · exact fun h => h ▸ modems_isPrefix ..
  · exact fun h =>
      (List.prefix_of_prefix_length_le h (modems_isPrefix ..)
        (Nat.le_of_eq Judgement.length_compared)).eq_of_length Judgement.length_compared

end ModemRelay
