import Mathlib.Algebra.Group.Int.Defs
import WorkflowRepair.Proofs.Repair.Kept
import WorkflowRepair.Proofs.Repair.Terminals
import WorkflowRepair.Proofs.Validation.Temperature

/-!
When validation and repair answer. A repair keeps the temperatures of language models and adds none,
so it answers whenever the validation of the workflow that was given does.
-/

namespace WorkflowRepair

open Validation (TemperatureFits Examinable soundNodes identityFinding?)

/-! ### What has to be examined is kept -/

theorem Node.Kept.temperatureFits {userInput? : Option String} {before after : Node}
    (h : Node.Kept userInput? before after) (fits : TemperatureFits before.data) :
    TemperatureFits after.data := by
  intro i given
  refine fits i ?_
  rcases h.data with reworded | ⟨text, -, -, reworded⟩
  · have value := reworded.getD "temperature"
    rw [given] at value
    exact value.eq_num
  · have value := reworded.getD "temperature"
    rw [given] at value
    have filled := value.eq_num
    rwa [Members.withUserInput, Members.getD_set_of_ne _ _ (by decide)] at filled

theorem Node.Kept.identityFinding? {userInput? : Option String} {before after : Node}
    (h : Node.Kept userInput? before after) (seen : List String) :
    identityFinding? seen after = identityFinding? seen before := by
  rw [Validation.identityFinding?, Validation.identityFinding?, h.id, h.type]

/-- A node that is examined in the end was examined before. -/
theorem exists_of_mem_soundNodes {userInput? : Option String} {before after : List Node}
    (h : List.Forall₂ (Node.Kept userInput?) before after) {seen : List String} {n' : Node}
    (sound : n' ∈ soundNodes seen after) : ∃ n ∈ soundNodes seen before, n.Kept userInput? n' := by
  induction h generalizing seen with
  | nil => cases sound
  | @cons n n₁ rest rest' here _ ih =>
    unfold soundNodes at sound ⊢
    rw [here.identityFinding?] at sound
    cases found : identityFinding? seen n with
    | some finding =>
      rw [found] at sound
      exact ih sound
    | none =>
      rw [found, here.id] at sound
      rcases List.mem_cons.1 sound with rfl | later
      · exact ⟨n, List.mem_cons_self, here⟩
      · obtain ⟨m, mem, kept⟩ := ih later
        exact ⟨m, List.mem_cons_of_mem _ mem, kept⟩

theorem Workflow.Kept.examinable {userInput? : Option String} {before after : Workflow}
    (h : before.Kept userInput? after) {profile : Profile}
    (start : Examinable profile before.nodes) : Examinable profile after.nodes := by
  intro generated n' sound' llm
  obtain ⟨n, sound, kept⟩ := exists_of_mem_soundNodes h.nodes sound'
  rw [kept.isKind] at llm
  exact kept.temperatureFits (start generated n sound llm)

namespace Repair

theorem examinable_complete {profile : Profile} {w : Workflow} (h : Examinable profile w.nodes) :
    Examinable profile (complete w).workflow.nodes := by
  rw [nodes_complete]
  refine h.append (fun n added => ?_) fun n added => ?_
  · obtain ⟨id, used, rfl⟩ := exists_of_inputFor? (Option.mem_toList.1 added)
    rw [Node.isKind, kind_newInput]
    rfl
  · obtain ⟨id, used, shown, rfl⟩ := exists_of_outputFor? (Option.mem_toList.1 added)
    rw [Node.isKind, kind_newOutput]
    rfl

variable {fixer : Fixer}

theorem examinable_prepare (options : FixOptions) {profile : Profile} {w : Workflow}
    (h : Examinable profile w.nodes) : Examinable profile (prepare options w).nodes :=
  prepare_keeps (p := fun w => Examinable profile w.nodes) options h
    (fun _ => examinable_complete) fun w => (kept_fillUserInput w).examinable

/-! ### Answers -/

theorem fixStructure_ok_iff {v : Validator} {onlyInvalid : Bool} {w : Workflow} :
    (∃ o, fixStructure v onlyInvalid w = .ok o) ↔ Examinable v.profile w.nodes := by
  constructor
  · rintro ⟨o, ho⟩
    rw [← Validation.reportOn_ok_iff (v := v)]
    cases structureEnd_of_fixStructure ho with
    | leftAlone report => exact ⟨_, report⟩
    | takenBack report => exact ⟨_, report⟩
    | stands report => exact ⟨_, report⟩
  · intro examinable
    obtain ⟨before, report⟩ := Validation.reportOn_ok_iff.2 examinable
    obtain ⟨after, again⟩ :=
      Validation.reportOn_ok_iff.2 ((kept_mended none w).examinable examinable)
    unfold fixStructure
    simp only [report, mend_safe, again]
    split
    · exact ⟨_, rfl⟩
    · split
      · exact ⟨_, rfl⟩
      · exact ⟨_, rfl⟩

/-- A round answers and leaves a workflow on which the next one does. -/
theorem exists_round (options : FixOptions) {w : Workflow}
    (h : Examinable fixer.validator.profile w.nodes) :
    ∃ r, round fixer options w = .ok r ∧
      Examinable fixer.validator.profile r.workflow.nodes := by
  have mends : ∃ s, fixStructure fixer.validator false (prepare options w) = .ok s :=
    fixStructure_ok_iff.2 (examinable_prepare options h)
  obtain ⟨s, structural⟩ := mends
  have answers : ∃ r, round fixer options w = .ok r := by
    obtain ⟨gate, addTerminals, fill, rename⟩ := options
    cases addTerminals <;> cases fill <;> cases rename <;>
    · simp only [prepare, Bool.false_eq_true, if_true, if_false] at structural
      simp only [round, Bool.false_eq_true, if_true, if_false, structural]
      exact ⟨_, rfl⟩
  obtain ⟨r, hr⟩ := answers
  have kept : (prepare options w).Kept none r.workflow := kept_of_round (by simp) hr
  exact ⟨r, hr, kept.examinable (examinable_prepare _ h)⟩

theorem exists_rounds (options : FixOptions) (current : Round)
    (h : Examinable fixer.validator.profile current.workflow.nodes) (n : Nat) :
    ∃ last, rounds fixer options n current = .ok last ∧
      Examinable fixer.validator.profile last.workflow.nodes := by
  induction n generalizing current with
  | zero => exact ⟨current, rfl, h⟩
  | succ n ih =>
    obtain ⟨next, hr, examinable⟩ := exists_round options h
    simp only [rounds, hr]
    split
    · exact ⟨_, rfl, h⟩
    · exact ih _ examinable

end Repair

theorem Fixer.fix_ok_iff {fixer : Fixer} {options : FixOptions} {w : Workflow} :
    (∃ o, fixer.fix options w = .ok o) ↔ Examinable fixer.validator.profile w.nodes := by
  constructor
  · rintro ⟨o, ho⟩
    rw [← Validation.reportOn_ok_iff]
    cases fixEnd_of_fix ho with
    | leftAlone report => exact ⟨_, report⟩
    | takenBack report => exact ⟨_, report⟩
    | stands report => exact ⟨_, report⟩
  · intro examinable
    obtain ⟨before, report⟩ := Validation.reportOn_ok_iff.2 examinable
    obtain ⟨last, rounds, examinable'⟩ := Repair.exists_rounds options ⟨w, [], []⟩ examinable
      Repair.roundLimit
    obtain ⟨after, again⟩ := Validation.reportOn_ok_iff.2 examinable'
    unfold Fixer.fix
    simp only [report, rounds, again]
    split
    · exact ⟨_, rfl⟩
    · split
      · exact ⟨_, rfl⟩
      · exact ⟨_, rfl⟩

/-- Validation and repair answer exactly when no language model that is examined has an integer for
its temperature that no double holds; the structural profile examines none. -/
theorem Validator.answers_iff (v : Validator) :
    (∀ nodes edges, (∃ report, v.reportRaw nodes edges = .ok report) ↔
      ∀ w, Workflow.ofRaw nodes edges = .ok w → Examinable v.profile w.nodes) ∧
    ∀ w : Workflow,
      (∀ onlyInvalid, (∃ o, Repair.fixStructure v onlyInvalid w = .ok o) ↔
        Examinable v.profile w.nodes) ∧
      ∀ policy options, (∃ o, Fixer.fix ⟨v, policy⟩ options w = .ok o) ↔
        Examinable v.profile w.nodes := by
  refine ⟨fun nodes edges => Validation.reportRaw_ok_iff, fun w => ⟨fun gate => ?_, ?_⟩⟩
  · exact Repair.fixStructure_ok_iff
  · intro policy options
    exact Fixer.fix_ok_iff

/-- A language model with an integer for its temperature. -/
def Node.heated (temperature : Int) : Node :=
  { id := "m", type := "llm", data := [("temperature", .num (.int temperature))] }

/-- One node with a temperature beyond all doubles stops the validation and both repairs. -/
theorem Validator.not_answers_heated :
    let v : Validator := { profile := .generated }
    let n : Node := .heated (10 ^ 400)
    v.reportRaw (.arr [n.toJson]) (.arr []) = .error .integerTooLarge ∧
      Repair.fixStructure v true ⟨[n], []⟩ = .error .integerTooLarge ∧
      Fixer.fix ⟨v, {}⟩ {} ⟨[n], []⟩ = .error .integerTooLarge := by
  decide +kernel

end WorkflowRepair
