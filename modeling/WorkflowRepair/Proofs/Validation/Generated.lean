import WorkflowRepair.Proofs.Template.Label
import WorkflowRepair.Proofs.Template.Texts
import WorkflowRepair.Proofs.Validation.Configured
import WorkflowRepair.Proofs.Validation.Profiles

/-!
The profile of generated workflows as one property of nodes and edges: they are well formed, every
node has a label of its own and the settings of its kind, and every reference names one node. A
report under the profile is made and without issues exactly when the property holds.
-/

namespace WorkflowRepair

namespace Validation

variable {nodes : List Node} {edges : List Edge}

/-! ### Labels -/

/-- Every node has a kind and a label of its own, none like an id of the system. -/
structure Named (nodes : List Node) : Prop where
  kinds : ∀ n ∈ nodes, ∃ kind, n.isKind kind = true
  labelled : ∀ n ∈ nodes, Text.isBlankText (Template.normalLabel n.label) = false
  distinct : (nodes.map fun n => Template.normalLabel n.label).Nodup
  free : ∀ n ∈ nodes, ∀ start ∈ reservedStarts,
    ¬ start.toList <+: (Template.normalLabel n.label).toList

theorem isLabelled_iff {n : Node} :
    n.isLabelled = true ↔ Text.isBlankText (Template.normalLabel n.label) = false := by
  rw [Template.isBlankText_normalLabel, Node.isLabelled, Bool.not_eq_true']

theorem labelFindings_eq_nil_iff {n : Node} : labelFindings n = [] ↔
    (∃ kind, n.isKind kind = true) ∧ Text.isBlankText (Template.normalLabel n.label) = false := by
  rw [← isLabelled_iff, labelFindings, List.append_eq_nil_iff]
  refine and_congr ?_ (by simp)
  cases kind : n.kind <;> simp [Node.isKind, kind]

theorem isReserved_eq_false_iff {label : String} :
    isReserved label = false ↔ ∀ start ∈ reservedStarts, ¬ start.toList <+: label.toList := by
  simp [isReserved]

section Labelled

variable (labelled : ∀ n ∈ nodes, Text.isBlankText (Template.normalLabel n.label) = false)

include labelled

theorem mem_normalLabels {label : String} :
    label ∈ normalLabels nodes ↔ ∃ n ∈ nodes, Template.normalLabel n.label = label := by
  have all : nodes.filter Node.isLabelled = nodes :=
    List.filter_eq_self.2 fun n mem => isLabelled_iff.2 (labelled n mem)
  rw [normalLabels, all, List.mem_eraseDups, List.mem_map]

theorem length_idsLabelled (label : String) : (idsLabelled nodes label).length =
    (nodes.map fun n => Template.normalLabel n.label).count label := by
  rw [idsLabelled, List.length_map, ← List.countP_eq_length_filter, List.count, List.countP_map]
  refine List.countP_congr fun n mem => ?_
  rw [isLabelled_iff.2 (labelled n mem), Bool.true_and, Function.comp_apply]

/-- A normal label that occurs is neither reserved nor shared when nothing is found on it. -/
theorem sharedLabelFindings_eq_nil_iff {label : String}
    (occurs : ∃ n ∈ nodes, Template.normalLabel n.label = label) :
    sharedLabelFindings nodes label = [] ↔ isReserved label = false ∧
      (nodes.map fun n => Template.normalLabel n.label).count label ≤ 1 := by
  have count := length_idsLabelled labelled label
  have some : 0 < (nodes.map fun n => Template.normalLabel n.label).count label :=
    List.count_pos_iff.2 (List.mem_map.2 occurs)
  rw [← count] at some ⊢
  rw [sharedLabelFindings, List.append_eq_nil_iff]
  cases ids : idsLabelled nodes label with
  | nil =>
    rw [ids] at some
    cases some
  | cons first rest => cases rest <;> simp

theorem sharedLabels_eq_nil_iff :
    (normalLabels nodes).flatMap (sharedLabelFindings nodes) = [] ↔
      (nodes.map fun n => Template.normalLabel n.label).Nodup ∧
        ∀ n ∈ nodes, isReserved (Template.normalLabel n.label) = false := by
  rw [List.flatMap_eq_nil_iff, List.nodup_iff_count_le_one]
  constructor
  · intro none
    have each (label : String) (occurs : ∃ n ∈ nodes, Template.normalLabel n.label = label) :=
      (sharedLabelFindings_eq_nil_iff labelled occurs).1
        (none label ((mem_normalLabels labelled).2 occurs))
    refine ⟨fun label => ?_, fun n mem => (each _ ⟨n, mem, rfl⟩).1⟩
    by_cases occurs : ∃ n ∈ nodes, Template.normalLabel n.label = label
    · exact (each label occurs).2
    · have missing : label ∉ nodes.map fun n => Template.normalLabel n.label :=
        fun mem => occurs (List.mem_map.1 mem)
      rw [List.count_eq_zero_of_not_mem missing]
      omega
  · rintro ⟨once, free⟩ label mem
    obtain ⟨n, inside, rfl⟩ := (mem_normalLabels labelled).1 mem
    exact (sharedLabelFindings_eq_nil_iff labelled ⟨n, inside, rfl⟩).2 ⟨free n inside, once _⟩

end Labelled

theorem namingFindings_eq_nil_iff : namingFindings nodes = [] ↔ Named nodes := by
  rw [namingFindings, List.append_eq_nil_iff, List.flatMap_eq_nil_iff]
  simp only [labelFindings_eq_nil_iff]
  constructor
  · rintro ⟨each, shared⟩
    have labelled := fun n mem => (each n mem).2
    obtain ⟨distinct, free⟩ := (sharedLabels_eq_nil_iff labelled).1 shared
    exact ⟨fun n mem => (each n mem).1, labelled, distinct,
      fun n mem => isReserved_eq_false_iff.1 (free n mem)⟩
  · intro h
    refine ⟨fun n mem => ⟨h.kinds n mem, h.labelled n mem⟩, ?_⟩
    exact (sharedLabels_eq_nil_iff h.labelled).2
      ⟨h.distinct, fun n mem => isReserved_eq_false_iff.2 (h.free n mem)⟩

theorem presenceFindings_eq_nil_iff : presenceFindings nodes = [] ↔
    (∃ n ∈ nodes, n.isKind .input = true) ∧ ∃ n ∈ nodes, n.isKind .output = true := by
  simp [presenceFindings, ← List.any_eq_true]

/-! ### References -/

/-- A name refers to nothing, to a label, or by an alias to the only node of a kind. -/
def Resolved (nodes : List Node) (name : String) : Prop :=
  name = "" ∨ (∃ n ∈ nodes, Template.normalLabel n.label = Template.normalLabel name) ∨
    ∃ kind, NodeKind.ofAlias? name = some kind ∧ nodes.countP (·.isKind kind) = 1

theorem resolves_iff
    (labelled : ∀ n ∈ nodes, Text.isBlankText (Template.normalLabel n.label) = false)
    {name : String} : resolves nodes name = true ↔ Resolved nodes name := by
  have label : hasLabel nodes (Template.normalLabel name) = true ↔
      ∃ n ∈ nodes, Template.normalLabel n.label = Template.normalLabel name := by
    rw [hasLabel, List.any_eq_true]
    refine exists_congr fun n => and_congr_right fun mem => ?_
    rw [isLabelled_iff.2 (labelled n mem), Bool.true_and, beq_iff_eq]
  have single : namesSingleKind nodes name = true ↔
      ∃ kind, NodeKind.ofAlias? name = some kind ∧ nodes.countP (·.isKind kind) = 1 := by
    unfold namesSingleKind
    cases NodeKind.ofAlias? name <;> simp
  rw [resolves, Bool.or_eq_true, Bool.or_eq_true, beq_iff_eq, label, single, or_assoc, Resolved]

/-- Every reference in the data of a node besides its label is resolved. -/
def Referring (nodes : List Node) : Prop :=
  ∀ n ∈ nodes, ∀ key j, (key, j) ∈ n.data → key ≠ "label" → ∀ s, j.Holds s →
    ∀ r ∈ Template.references s, Resolved nodes r.name

theorem referenceFindings_eq_nil_iff
    (labelled : ∀ n ∈ nodes, Text.isBlankText (Template.normalLabel n.label) = false) :
    referenceFindings nodes = [] ↔ Referring nodes := by
  have field (id : String) (field : TextField) : fieldReferenceFindings nodes id field = [] ↔
      ∀ r ∈ Template.references field.value, Resolved nodes r.name := by
    simp [fieldReferenceFindings, ← resolves_iff labelled]
  rw [referenceFindings, List.flatMap_eq_nil_iff]
  refine forall₂_congr fun n _ => ?_
  rw [List.flatMap_eq_nil_iff]
  simp only [field]
  constructor
  · intro each key j mem other s holds r inside
    obtain ⟨field, here, rfl⟩ := TextField.exists_mem_all_iff.2 ⟨key, j, mem, other, holds⟩
    refine each field (List.mem_filter.2 ⟨here, ?_⟩) r inside
    exact Template.isTemplate_of_reference inside
  · intro all field mem
    have here := (List.mem_filter.1 mem).1
    obtain ⟨key, j, inside, other, holds⟩ := TextField.exists_mem_all_iff.1 ⟨field, here, rfl⟩
    exact all key j inside other field.value holds

/-! ### All rules -/

/-- What the profile of generated workflows asks of nodes beyond their structure; form fields have
names of the given sort. -/
structure Configured (named : String → Prop) (nodes : List Node) : Prop where
  naming : Named nodes
  input : ∃ n ∈ nodes, n.isKind .input = true
  output : ∃ n ∈ nodes, n.isKind .output = true
  conditions : ∀ n ∈ nodes, n.isKind .branch = true →
    (Members.getD n.data "condition").isSet = true
  settings : ∀ n ∈ nodes, SettingsReady named n
  references : Referring nodes

/-- Where nodes and edges are well formed, only the rules for generated workflows can find
something. -/
theorem findings_generated_eq_nil_iff (h : WellFormed nodes edges) :
    findings .generated nodes edges = .ok [] ↔
      namingFindings nodes = [] ∧ presenceFindings nodes = [] ∧
      (∀ n ∈ nodes, n.isKind .branch = true → conditionFindings n = []) ∧
      allNodeFindings .generated nodes = .ok [] ∧ referenceFindings nodes = [] := by
  obtain ⟨found, run, none⟩ := structural_findings nodes edges
  rw [none.2 h, findings_structural h.inhabited] at run
  have clean := Except.ok.inj run
  simp only [List.append_eq_nil_iff] at clean
  obtain ⟨⟨⟨⟨⟨⟨identity, connection⟩, branch⟩, meeting⟩, cycle⟩, orphan⟩, -⟩ := clean
  rw [soundNodes_eq_self identity] at connection branch meeting cycle orphan
  have conditions : branchFindings .generated nodes (soundEdges nodes edges) = [] ↔
      ∀ n ∈ nodes, n.isKind .branch = true → conditionFindings n = [] := by
    simp only [branchFindings, List.flatMap_eq_nil_iff, List.mem_filter, and_imp,
      List.append_eq_nil_iff, reduceCtorEq, if_false, and_true, if_true] at branch ⊢
    exact forall₃_congr fun n mem isBranch => and_iff_right (branch n mem isBranch)
  rw [← conditions]
  simp only [findings, List.isEmpty_iff, h.inhabited, if_false, soundNodes_eq_self identity,
    identity, connection, meeting, cycle, orphan, List.append_nil, List.nil_append, if_true]
  cases allNodeFindings .generated nodes with
  | error fault => simp
  | ok settings => simp

theorem findings_generated_iff : findings .generated nodes edges = .ok [] ↔
    WellFormed nodes edges ∧ Configured FieldName nodes := by
  have formed (clean : findings .generated nodes edges = .ok []) : WellFormed nodes edges := by
    obtain ⟨found, run, none⟩ := structural_findings nodes edges
    exact none.1 (Except.ok.inj (run.symm.trans (findings_nest clean)))
  have condition (n : Node) :
      conditionFindings n = [] ↔ (Members.getD n.data "condition").isSet = true := by
    simp [conditionFindings]
  constructor
  · intro clean
    have structured := formed clean
    obtain ⟨naming, presence, conditions, settings, references⟩ :=
      (findings_generated_eq_nil_iff structured).1 clean
    have naming := namingFindings_eq_nil_iff.1 naming
    obtain ⟨input, output⟩ := presenceFindings_eq_nil_iff.1 presence
    refine ⟨structured, naming, input, output, ?_, ?_, ?_⟩
    · exact fun n mem isBranch => (condition n).1 (conditions n mem isBranch)
    · intro n mem
      exact settingFindings_eq_nil_iff.1 (allNodeFindings_generated_eq_nil_iff.1 settings n mem).2
    · exact (referenceFindings_eq_nil_iff naming.labelled).1 references
  · rintro ⟨structured, h⟩
    refine (findings_generated_eq_nil_iff structured).2 ⟨namingFindings_eq_nil_iff.2 h.naming,
      presenceFindings_eq_nil_iff.2 ⟨h.input, h.output⟩, ?_, ?_, ?_⟩
    · exact fun n mem isBranch => (condition n).2 (h.conditions n mem isBranch)
    · refine allNodeFindings_generated_eq_nil_iff.2 fun n mem => ?_
      exact ⟨retrievalFindings_eq_nil_iff.2 (structured.retrieving n mem),
        settingFindings_eq_nil_iff.2 (h.settings n mem)⟩
    · exact (referenceFindings_eq_nil_iff h.naming.labelled).2 h.references

end Validation

open Validation

/-- A report under the profile of generated workflows is made and valid exactly when nodes and edges
are well formed and configured; the name of a form field is an identifier, but for one line feed
that may stand behind it. -/
theorem Validator.isValid_generated_iff (catalog : Catalog) (nodes : List Node)
    (edges : List Edge) :
    (∃ report, Validator.report ⟨catalog, .generated⟩ nodes edges = .ok report ∧
      report.isValid = true) ↔ WellFormed nodes edges ∧ Configured FieldName nodes := by
  rw [← findings_generated_iff]
  simp only [report]
  cases findings .generated nodes edges with
  | error fault => simp
  | ok found => simp [Report.isValid]

/-- A form with one field, whose name ends with a line feed. -/
def trailing : Node :=
  { id := "i", type := "input"
    data := [("label", .str "In"), ("enableStructuredForm", .bool true),
      ("formFields", .arr [.obj [("name", .str "a\n")]])] }

/-- The form goes straight to an output. -/
def trailingFlow : Workflow :=
  { nodes := [trailing, { id := "o", type := "output"
                          data := [("label", .str "Out"), ("inputMappings",
                            .obj [("mode", .str "direct"), ("sources", .arr [.str "X"])])] }]
    edges := [{ source := "i", target := "o" }] }

/-- The form is valid though its field is not named by an identifier. -/
theorem Validator.isValid_trailing :
    (∃ report, Validator.report ⟨.standard, .generated⟩ trailingFlow.nodes trailingFlow.edges =
      .ok report ∧ report.isValid = true) ∧
      trailing ∈ trailingFlow.nodes ∧ trailing.isKind .input = true ∧
      ¬ FormReady Identifier trailing.data := by
  refine ⟨exists_valid (by decide +kernel), List.mem_cons_self, by decide, fun ready => ?_⟩
  obtain ⟨first, more, fields, each⟩ := ready rfl
  cases fields
  obtain ⟨name, found, c, rest, whole, -, inside⟩ := each _ List.mem_cons_self
  cases found
  have chars : "a\n".toList = ['a', '\n'] := rfl
  cases chars.symm.trans whole
  exact absurd (inside '\n' List.mem_cons_self) (by decide)

end WorkflowRepair
