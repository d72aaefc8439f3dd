import WorkflowRepair.Proofs.Repair.Unresolved

/-!
References that are repaired a second time. Where all labels are ordinary, what was put in is read
back as a label and is a defect no more, so the defects that are left are those without a
replacement: nothing is put in again, and the same errors are told.
-/

namespace WorkflowRepair.Repair

open Template (replace references)

variable {policy : FuzzyPolicy} {nodes : List Node} {w : Workflow}

theorem matchName?_healed (policy : FuzzyPolicy) (w : Workflow) :
    matchName? policy (healReferences policy w).nodes = matchName? policy w.nodes := by
  rw [← matchName?_face, face_healReferences, matchName?_face]

theorem labels_healed (policy : FuzzyPolicy) (w : Workflow) :
    labels (healReferences policy w).nodes = labels w.nodes := by
  rw [← labels_face, face_healReferences, labels_face]

/-! ### Defects -/

/-- Whether a reference is a defect. -/
def isDefect (policy : FuzzyPolicy) (nodes : List Node) (r : Reference) : Bool :=
  (matchName? policy nodes r.name).isSome

/-- The defects of a text are those of its references that are defects. -/
theorem fieldDefects_eq (policy : FuzzyPolicy) (nodes : List Node) (id : String)
    (field : TextField) :
    fieldDefects policy nodes id field =
      ((references field.value).filter (isDefect policy nodes)).filterMap fun r =>
        (matchName? policy nodes r.name).map fun found => ⟨id, field.path, r, found⟩ := by
  rw [fieldDefects, List.filterMap_filter]
  refine List.filterMap_congr fun r _ => ?_
  cases matched : matchName? policy nodes r.name <;> simp [isDefect, matched]

section Ordinary

variable (ordinary : OrdinaryLabels nodes)

include ordinary

/-- What is put in is a label and so no defect. -/
theorem putsNone_isDefect : Template.PutsNone (healed? policy nodes) (isDefect policy nodes) := by
  refine putsNone_of_labels ordinary fun r known => ?_
  rw [isDefect, matchName?_eq_none_iff.2 (.inr known)]
  rfl

theorem fieldDefects_healed (id : String) (field : TextField) :
    fieldDefects policy nodes id (field.mapValue (replace (healed? policy nodes))) =
      (fieldDefects policy nodes id field).filter (·.replacement?.isNone) := by
  have left : (references (replace (healed? policy nodes) field.value)).filter
        (isDefect policy nodes) =
      (references field.value).filter fun r =>
        isDefect policy nodes r && (healed? policy nodes r).isNone :=
    Template.references_replace
      (fits ordinary paths_healed? (putsLabels_healed? policy nodes)) (putsNone_isDefect ordinary)
      field.value
  have unmended : (fieldDefects policy nodes id field).filter (·.replacement?.isNone) =
      (fieldDefects policy nodes id field).filter fun d =>
        (healed? policy nodes d.reference).isNone :=
    List.filter_congr fun d mem => isNone_replacement? mem
  rw [unmended, fieldDefects_eq policy nodes id (field.mapValue _)]
  show ((references (replace (healed? policy nodes) field.value)).filter _).filterMap _ = _
  rw [left, fieldDefects, List.filterMap_filter, List.filter_filterMap]
  refine List.filterMap_congr fun r _ => ?_
  cases matched : matchName? policy nodes r.name with
  | none => simp [isDefect, matched]
  | some found =>
    cases new : healed? policy nodes r <;>
      simp [isDefect, matched, new, Option.filter_some, TextField.mapValue]

/-- The same for all texts of a node. -/
theorem dataDefects_healed (id : String) (data : Members) :
    (TextField.templates (Members.mapTexts (replace (healed? policy nodes)) data)).flatMap
        (fieldDefects policy nodes id) =
      ((TextField.templates data).flatMap (fieldDefects policy nodes id)).filter
        (·.replacement?.isNone) := by
  have silent (field : TextField) (none : references field.value = []) :
      fieldDefects policy nodes id field = [] := by
    simp [fieldDefects, none]
  rw [TextField.flatMap_templates silent, TextField.flatMap_templates silent,
    TextField.all_mapTexts, List.flatMap_map, List.filter_flatMap]
  exact List.flatMap_congr fun field _ => fieldDefects_healed ordinary id field

end Ordinary

/-- The defects that are left are those without a replacement. -/
theorem referenceDefects_healed (ordinary : OrdinaryLabels w.nodes) :
    referenceDefects policy (healReferences policy w) =
      (referenceDefects policy w).filter (·.replacement?.isNone) := by
  have same (id : String) : fieldDefects policy (healReferences policy w).nodes id =
      fieldDefects policy w.nodes id := by
    funext field
    rw [fieldDefects, fieldDefects, matchName?_healed]
  rw [referenceDefects, referenceDefects, List.filter_flatMap]
  simp only [same]
  rw [healReferences, replaceReferences, List.flatMap_map]
  exact List.flatMap_congr fun n _ => dataDefects_healed ordinary n.id n.data

/-! ### Workflows -/

theorem healReferences_healReferences (ordinary : OrdinaryLabels w.nodes) :
    healReferences policy (healReferences policy w) = healReferences policy w := by
  have names : healed? policy (healReferences policy w).nodes = healed? policy w.nodes := by
    funext r
    rw [healed?, healed?, matchName?_healed]
  rw [healReferences, names, healReferences, replaceReferences, replaceReferences]
  congr 1
  exact map_mapTexts_again (fun text => (leaves_healed ordinary text).replace_eq) w.nodes

theorem fixTexts_unmended (applied : Bool) (defects : List ReferenceDefect) :
    fixTexts applied (defects.filter (·.replacement?.isNone)) = [] := by
  rw [fixTexts, List.filterMap_eq_nil_iff]
  intro d mem
  have none : d.replacement? = none := by simpa using (List.mem_filter.1 mem).2
  rw [none]
  rfl

theorem errorTexts_unmended (labels : List String) (defects : List ReferenceDefect) :
    errorTexts labels (defects.filter (·.replacement?.isNone)) = errorTexts labels defects := by
  rw [errorTexts, errorTexts, List.filterMap_filter]
  refine List.filterMap_congr fun d _ => ?_
  cases d.replacement? <;> simp

/-- Where all labels are ordinary, repairing the references once more changes nothing: the defects
are those of the first repair that have no replacement, so no fix is told, and the same errors. -/
theorem applyReferences_again (policy : FuzzyPolicy) (w : Workflow)
    (ordinary : OrdinaryLabels w.nodes) :
    let first := applyReferences policy w
    let again := applyReferences policy first.workflow
    again.workflow = first.workflow ∧
      again.defects = first.defects.filter (·.replacement?.isNone) ∧
      (∀ d ∈ again.defects, d.replacement? = none) ∧ again.changed = false ∧
      again.fixes = [] ∧ again.errors = first.errors ∧ again.labels = first.labels := by
  intro first again
  have defects : again.defects = first.defects.filter (·.replacement?.isNone) :=
    referenceDefects_healed ordinary
  have labels : again.labels = first.labels := labels_healed policy w
  have none : ∀ d ∈ again.defects, d.replacement? = none := by
    intro d mem
    rw [defects] at mem
    simpa using (List.mem_filter.1 mem).2
  refine ⟨healReferences_healReferences ordinary, defects, none, ?_, ?_, ?_, labels⟩
  · rw [HealOutcome.changed, List.any_eq_false]
    intro d mem
    simp [none d mem]
  · show fixTexts true again.defects = []
    rw [defects]
    exact fixTexts_unmended true _
  · show errorTexts again.labels again.defects = errorTexts first.labels first.defects
    rw [defects, labels]
    exact errorTexts_unmended _ _

/-- Texts with lone and nested braces, an empty slot, and names that mean a label by id, by normal
form and by edit distance, or no label. -/
def scrawled : Workflow :=
  { nodes := [
      { id := "i", type := "input", data := [("label", .str "Question \x7b1")] },
      { id := "m", type := "llm", data := [
          ("label", .str "Answer"),
          ("prompt", .str ("\x7b\x7bi.a\x7d\x7d \x7b\x7b\x7bi\x7d\x7d\x7d \x7b\x7b \x7d\x7d "
            ++ "\x7b\x7bQestion \x7b1[0]\x7d\x7d \x7b")),
          ("more", .arr [.obj [("deep", .str ("\x7b\x7b\x7b\x7banswer\x7d\x7d "
            ++ "\x7b\x7b answer.x \x7d\x7d\x7b\x7bnowhere\x7d\x7d\x7b\x7bi"))]])] }] }

/-- Four of its references are repaired, two are left, and then nothing more happens. -/
theorem applyReferences_again_scrawled : OrdinaryLabels scrawled.nodes ∧
    (applyReferences {} scrawled).fixes.length = 4 ∧
    (applyReferences {} scrawled).errors.length = 2 ∧
    (let first := applyReferences {} scrawled
      let again := applyReferences {} first.workflow
      again.workflow = first.workflow ∧ again.fixes = [] ∧ again.errors = first.errors) := by
  have ordinary : OrdinaryLabels scrawled.nodes := by
    intro n mem _
    simp only [scrawled, List.mem_cons, List.not_mem_nil, or_false] at mem
    rcases mem with rfl | rfl
    · have plain : "Question \x7b1".toList.all
          (fun c => c ≠ '.' ∧ c ≠ '[' ∧ c ≠ '\x7d') = true := by
        decide +kernel
      refine ⟨by decide +kernel, fun c mem => ?_⟩
      simpa using List.all_eq_true.1 plain c mem
    · exact ordinaryLabel_of_solid (by decide)
  obtain ⟨workflow, -, -, -, fixes, errors, -⟩ := applyReferences_again {} scrawled ordinary
  refine ⟨ordinary, ?_, ?_, workflow, fixes, errors⟩
  · decide +kernel
  · decide +kernel

end WorkflowRepair.Repair
