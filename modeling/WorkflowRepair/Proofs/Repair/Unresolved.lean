import WorkflowRepair.Proofs.Repair.Answers
import WorkflowRepair.Proofs.Repair.Guarantee
import WorkflowRepair.Proofs.Repair.References
import WorkflowRepair.Proofs.Template.Rereading
import WorkflowRepair.Proofs.Validation.Orphans

/-!
References that are left unresolved. The validation and the repair match names in ways of their own,
but what the validation does not resolve is a defect for the repair, and what the repair puts in is
a label, which the validation resolves. So after the repair of references the validation reports
what it reported before, but for the references that were replaced.
-/

namespace WorkflowRepair

open Validation (resolves referenceFindings fieldReferenceFindings identityFindings)

/-! ### Names -/

namespace Validation

/-- What a name refers to is seen from the faces of the nodes. -/
theorem resolves_face (nodes : List Node) : resolves (nodes.map Node.face) = resolves nodes := by
  funext name
  simp only [resolves, hasLabel, namesSingleKind, List.any_map, List.countP_map, Function.comp_def,
    Node.face_label, Node.face_isLabelled, Node.face_isKind]

theorem resolves_of_mem_labels {nodes : List Node} {name : String}
    (known : name ∈ Repair.labels nodes) : resolves nodes name = true := by
  obtain ⟨n, mem, labelled, rfl⟩ := Repair.mem_labels.1 known
  have label : hasLabel nodes (Template.normalLabel n.label) = true :=
    List.any_eq_true.2 ⟨n, mem, by simp [labelled]⟩
  rw [resolves, label, Bool.or_true, Bool.true_or]

/-- Of all passes over a generated workflow only that over the references finds unresolved ones. -/
theorem filter_unresolved {nodes : List Node} {edges : List Edge} {found : List Finding}
    (run : findings .generated nodes edges = .ok found) :
    found.filter (·.rule = .unresolvedReference) = referenceFindings (soundNodes [] nodes) := by
  by_cases given : nodes = []
  · subst given
    rw [← Except.ok.inj run]
    rfl
  · obtain ⟨settings, same⟩ := filter_findings given run .unresolvedReference
    have own : (passes .generated nodes edges settings).filter (.unresolvedReference ∈ ·.1) =
        [([.unresolvedReference], referenceFindings (soundNodes [] nodes))] := rfl
    rw [same, own, List.flatMap_singleton]
    exact (reports_references _).filter_eq_self

end Validation

/-! ### Defects that are findings -/

/-- The finding of the validation on a defect. -/
def ReferenceDefect.finding (d : ReferenceDefect) : Finding :=
  .onField .unresolvedReference d.nodeId d.fieldPath
    (some ("无法解析的引用: " ++ Template.braced d.reference.expression))

namespace Repair

/-- The defects whose names the validation does not resolve either. -/
def unresolvedDefects (policy : FuzzyPolicy) (w : Workflow) : List ReferenceDefect :=
  (referenceDefects policy w).filter fun d => !resolves w.nodes d.reference.name

variable {policy : FuzzyPolicy} {nodes : List Node} {w : Workflow}

/-- A name that is not resolved comes to something. -/
theorem exists_match (policy : FuzzyPolicy) {name : String}
    (unresolved : resolves nodes name = false) :
    ∃ found, matchName? policy nodes name = some found := by
  refine Option.ne_none_iff_exists'.1 fun none => ?_
  rcases matchName?_eq_none_iff.1 none with rfl | known
  · cases unresolved
  · rw [Validation.resolves_of_mem_labels known] at unresolved
    cases unresolved

theorem isNone_replacement? {id : String} {field : TextField} {d : ReferenceDefect}
    (mem : d ∈ fieldDefects policy nodes id field) :
    d.replacement?.isNone = (healed? policy nodes d.reference).isNone := by
  obtain ⟨r, -, made⟩ := List.mem_filterMap.1 mem
  obtain ⟨found, matched, rfl⟩ := Option.map_eq_some_iff.1 made
  rw [ReferenceDefect.replacement?, healed?, matched, Option.bind_some]

/-- The findings on some of the unresolved references of a text are those on their defects. -/
theorem finding_fieldDefects (policy : FuzzyPolicy) (nodes : List Node) (id : String)
    (field : TextField) (which : Reference → Bool) :
    ((fieldDefects policy nodes id field).filter fun d =>
        !resolves nodes d.reference.name && which d.reference).map ReferenceDefect.finding =
      ((Template.references field.value).filter fun r =>
        !resolves nodes r.name && which r).map fun r =>
          .onField .unresolvedReference id field.path
            (some ("无法解析的引用: " ++ Template.braced r.expression)) := by
  rw [fieldDefects, List.filter_filterMap, List.map_filterMap, ← List.filterMap_eq_map,
    List.filterMap_filter]
  refine List.filterMap_congr fun r _ => ?_
  cases resolved : resolves nodes r.name with
  | true => cases matchName? policy nodes r.name <;> simp [resolved, Option.filter_some]
  | false =>
    obtain ⟨found, matched⟩ := exists_match policy resolved
    rw [matched]
    cases chosen : which r <;> simp [resolved, chosen, Option.filter_some, ReferenceDefect.finding]

theorem fieldReferenceFindings_eq (policy : FuzzyPolicy) (id : String) (field : TextField) :
    fieldReferenceFindings nodes id field =
      ((fieldDefects policy nodes id field).filter fun d =>
        !resolves nodes d.reference.name).map ReferenceDefect.finding := by
  have all := finding_fieldDefects policy nodes id field fun _ => true
  simp only [Bool.and_true] at all
  rw [all, fieldReferenceFindings]

section Ordinary

variable (ordinary : OrdinaryLabels nodes)

include ordinary

/-- Only labels are put in, so no reference of a sort that leaves out the labels. -/
theorem putsNone_of_labels {which : Reference → Bool}
    (none : ∀ r, r.name ∈ labels nodes → which r = false) :
    Template.PutsNone (healed? policy nodes) which := by
  intro body reference expression inside read new r again
  obtain ⟨-, label, known, path, -, back⟩ :=
    readBack ordinary paths_healed? (putsLabels_healed? policy nodes) inside read new
  rw [back] at again
  cases again
  exact none _ known

theorem putsNone_healed? :
    Template.PutsNone (healed? policy nodes) fun r => !resolves nodes r.name := by
  refine putsNone_of_labels ordinary fun r known => ?_
  rw [Validation.resolves_of_mem_labels known, Bool.not_true]

/-- Of the unresolved references of a text those are left for which nothing was put in. -/
theorem fieldReferenceFindings_healed (id : String) (field : TextField) :
    fieldReferenceFindings nodes id
        (field.mapValue (Template.replace (healed? policy nodes))) =
      ((fieldDefects policy nodes id field).filter fun d =>
        !resolves nodes d.reference.name && d.replacement?.isNone).map ReferenceDefect.finding := by
  have left : (fieldDefects policy nodes id field).filter (fun d =>
        !resolves nodes d.reference.name && d.replacement?.isNone) =
      (fieldDefects policy nodes id field).filter fun d =>
        !resolves nodes d.reference.name && (healed? policy nodes d.reference).isNone :=
    List.filter_congr fun d mem => by rw [isNone_replacement? mem]
  rw [left, finding_fieldDefects policy nodes id field fun r => (healed? policy nodes r).isNone,
    ← Template.references_replace
      (fits ordinary paths_healed? (putsLabels_healed? policy nodes)) (putsNone_healed? ordinary)]
  rfl

/-- The same for all texts of a node; one without references has neither defects nor findings. -/
theorem dataFindings_healed (id : String) (data : Members) :
    (TextField.templates (Members.mapTexts (Template.replace (healed? policy nodes)) data)).flatMap
        (fieldReferenceFindings nodes id) =
      (TextField.templates data).flatMap fun field =>
        ((fieldDefects policy nodes id field).filter fun d =>
          !resolves nodes d.reference.name && d.replacement?.isNone).map
            ReferenceDefect.finding := by
  rw [TextField.flatMap_templates, TextField.flatMap_templates, TextField.all_mapTexts,
    List.flatMap_map]
  · exact List.flatMap_congr fun field _ => fieldReferenceFindings_healed ordinary id field
  · intro field none
    simp [fieldDefects, none]
  · intro field none
    simp [fieldReferenceFindings, none]

end Ordinary

/-! ### Workflows -/

theorem referenceFindings_eq (policy : FuzzyPolicy) (w : Workflow) :
    referenceFindings w.nodes = (unresolvedDefects policy w).map ReferenceDefect.finding := by
  have fields (id : String) : fieldReferenceFindings w.nodes id = _ :=
    funext (fieldReferenceFindings_eq policy id)
  simp only [referenceFindings, unresolvedDefects, referenceDefects, List.filter_flatMap,
    List.map_flatMap, fields]

theorem referenceFindings_healed (ordinary : OrdinaryLabels w.nodes) :
    referenceFindings (healReferences policy w).nodes =
      ((unresolvedDefects policy w).filter fun d => d.replacement?.isNone).map
        ReferenceDefect.finding := by
  have same : resolves (healReferences policy w).nodes = resolves w.nodes := by
    rw [← Validation.resolves_face, face_healReferences, Validation.resolves_face]
  have fields : fieldReferenceFindings (healReferences policy w).nodes =
      fieldReferenceFindings w.nodes := by
    funext id field
    rw [fieldReferenceFindings, fieldReferenceFindings, same]
  rw [referenceFindings, fields]
  simp only [healReferences, replaceReferences, List.flatMap_map, dataFindings_healed ordinary,
    unresolvedDefects, referenceDefects, List.filter_flatMap, List.map_flatMap, List.filter_filter,
    Bool.and_comm]

/-! ### Reports -/

theorem identityFindings_of_kept {userInput? : Option String} {before after : List Node}
    (h : List.Forall₂ (Node.Kept userInput?) before after) (seen : List String) :
    identityFindings seen after = identityFindings seen before := by
  induction h generalizing seen with
  | nil => rfl
  | cons here _ ih =>
    unfold identityFindings
    rw [here.identityFinding?, here.id]
    simp only [ih]

/-- Where nothing is wrong with the identities of nodes, the issues with the code are about the
references that are not resolved. -/
theorem unresolved_issues {catalog : Catalog} {report : Report}
    (run : Validator.reportOn ⟨catalog, .generated⟩ w = .ok report)
    (identity : identityFindings [] w.nodes = []) :
    report.issues.filter (·.code = "FFV-VAR-001") =
      (referenceFindings w.nodes).map catalog.issueOf := by
  simp only [Validator.reportOn, Validator.report] at run
  split at run
  · cases run
  · next found findings =>
    have unresolved := Validation.filter_unresolved findings
    rw [Validation.soundNodes_eq_self identity] at unresolved
    rw [← Except.ok.inj run, ← unresolved]
    exact Validation.issues_of_rule catalog found .unresolvedReference

/-- The repair of references takes away just the issues on references that have a replacement, and
brings up none. -/
theorem unresolved_after_healing (policy : FuzzyPolicy) {catalog : Catalog} {w : Workflow}
    {before : Report} (run : Validator.reportOn ⟨catalog, .generated⟩ w = .ok before)
    (identified : before.has "FFV-NODE-001" = false) (distinct : before.has "FFV-NODE-002" = false)
    (ordinary : OrdinaryLabels w.nodes) :
    ∃ after,
      Validator.reportOn ⟨catalog, .generated⟩ (applyReferences policy w).workflow = .ok after ∧
      before.issues.filter (·.code = "FFV-VAR-001") =
        (unresolvedDefects policy w).map (catalog.issueOf ·.finding) ∧
      after.issues.filter (·.code = "FFV-VAR-001") =
        ((unresolvedDefects policy w).filter (·.replacement?.isNone)).map
          (catalog.issueOf ·.finding) := by
  have kept : w.Kept none (healReferences policy w) := kept_replaceReferences none _ w
  have identity : identityFindings [] w.nodes = [] :=
    Validation.identityFindings_eq_nil run identified distinct
  have identity' : identityFindings [] (healReferences policy w).nodes = [] :=
    (identityFindings_of_kept kept.nodes []).trans identity
  obtain ⟨after, run'⟩ := Validation.reportOn_ok_iff (v := ⟨catalog, .generated⟩).2
    (kept.examinable (Validation.reportOn_ok_iff.1 ⟨before, run⟩))
  refine ⟨after, run', ?_, ?_⟩
  · rw [unresolved_issues run identity, referenceFindings_eq policy, List.map_map]
    rfl
  · rw [unresolved_issues run' identity', referenceFindings_healed ordinary, List.map_map]
    rfl

/-- A model that refers to the input by its id, by its label with a letter missing, by a name like
none and by its label in other case. -/
def misspelt : Workflow :=
  { nodes := [
      { id := "i", type := "input", data := [("label", .str "Question")] },
      { id := "m", type := "llm", data := [
          ("label", .str "Answer"),
          ("prompt", .str "\x7b\x7bi.a\x7d\x7d \x7b\x7bQestion.b\x7d\x7d"),
          ("more", .arr [.str "\x7b\x7bnowhere.c\x7d\x7d \x7b\x7bquestion.d\x7d\x7d"])] }]
    edges := [{ source := "i", target := "m" }] }

/-- Only the name like none is still reported. -/
theorem unresolved_after_healing_misspelt :
    ∃ before after, Validator.reportOn ⟨.standard, .generated⟩ misspelt = .ok before ∧
      Validator.reportOn ⟨.standard, .generated⟩ (applyReferences {} misspelt).workflow =
        .ok after ∧
      (before.issues.filter (·.code = "FFV-VAR-001")).map (·.location.fieldPath) =
        [some "data.prompt", some "data.prompt", some "data.more[0]"] ∧
      (after.issues.filter (·.code = "FFV-VAR-001")).map (·.location.fieldPath) =
        [some "data.more[0]"] := by
  have clean : (Validator.reportOn ⟨.standard, .generated⟩ misspelt).toOption.map
      (fun report => (report.has "FFV-NODE-001", report.has "FFV-NODE-002")) =
        some (false, false) := by
    decide +kernel
  have ordinary : OrdinaryLabels misspelt.nodes := by
    intro n mem _
    simp only [misspelt, List.mem_cons, List.not_mem_nil, or_false] at mem
    rcases mem with rfl | rfl
    · exact ordinaryLabel_of_solid (by decide)
    · exact ordinaryLabel_of_solid (by decide)
  obtain ⟨before, run, has⟩ := ok_of_toOption clean
  obtain ⟨identified, distinct⟩ := Prod.mk.inj has
  obtain ⟨after, run', issues, issues'⟩ :=
    unresolved_after_healing {} run identified distinct ordinary
  refine ⟨before, after, run, run', ?_, ?_⟩
  · rw [issues]
    decide +kernel
  · rw [issues']
    decide +kernel

end Repair

end WorkflowRepair
