import WorkflowRepair.Proofs.Validation.Rules
import WorkflowRepair.Proofs.Validation.WellFormed

/-!
How the two profiles go together. The rules for generated workflows have a profile of their own, and
every pass that the structural profile leaves out reports only such rules. So of a report under the
larger profile the smaller one gives the part on its own codes, and the standard catalog lists what
either of them can report.
-/

namespace WorkflowRepair

/-- The profile that a rule belongs to. -/
def Rule.profile : Rule → Profile
  | .missingLabel | .duplicateLabel | .reservedLabel | .unknownType | .branchCondition | .noInput
  | .noOutput | .llmSettings | .llmInput | .toolType | .outputMode | .outputSources | .inputForm
  | .unresolvedReference => .generated
  | .noNodes | .notArrays | .nodeIdentity | .duplicateId | .edgeEnds | .cycle | .unknownEndpoint
  | .duplicateEdge | .orphan | .branchExits | .branchHandles | .strayHandle | .branchesMeet
  | .retrieval => .structural

theorem Profile.structural_includes_iff {profile : Profile} :
    Profile.structural.includes profile = true ↔ profile = .structural := by
  simp [includes]

namespace Validation

/-- The findings on rules of the structural profile. -/
def structuralPart (found : List Finding) : List Finding :=
  found.filter fun f => f.rule.profile = .structural

theorem structuralPart_append (found found' : List Finding) :
    structuralPart (found ++ found') = structuralPart found ++ structuralPart found' :=
  List.filter_append ..

namespace Reports

variable {rules : List Rule} {found : List Finding}

theorem structuralPart_eq_self (h : Reports rules found)
    (all : ∀ rule ∈ rules, rule.profile = .structural) : structuralPart found = found :=
  List.filter_eq_self.2 fun f mem => decide_eq_true (all f.rule (h f mem))

theorem structuralPart_eq_nil (h : Reports rules found)
    (all : ∀ rule ∈ rules, rule.profile = .generated) : structuralPart found = [] := by
  refine List.filter_eq_nil_iff.2 fun f mem structural => ?_
  have generated := all f.rule (h f mem)
  rw [of_decide_eq_true structural] at generated
  cases generated

end Reports

theorem structuralPart_branchFindings (nodes : List Node) (edges : List Edge) :
    structuralPart (branchFindings .generated nodes edges) =
      branchFindings .structural nodes edges := by
  rw [structuralPart, branchFindings, List.filter_flatMap]
  refine List.flatMap_congr fun node _ => ?_
  have exits := (reports_exits edges node).structuralPart_eq_self (by decide)
  have condition := (reports_condition node).structuralPart_eq_nil (by decide)
  show structuralPart (exitFindings edges node ++ conditionFindings node) = _
  rw [structuralPart_append, exits, condition]
  rfl

theorem nodeFindings_nest {node : Node} {found : List Finding}
    (h : nodeFindings .generated node = .ok found) :
    nodeFindings .structural node = .ok (structuralPart found) := by
  unfold nodeFindings at h
  dsimp only at h
  split at h
  · cases h
  · next settings =>
    have retrieval := (reports_retrieval node).structuralPart_eq_self (by decide)
    have others := (reports_settings settings).structuralPart_eq_nil (by decide)
    rw [← Except.ok.inj h, structuralPart_append, retrieval, others, List.append_nil]
    rfl

theorem allNodeFindings_nest {nodes : List Node} {found : List Finding}
    (h : allNodeFindings .generated nodes = .ok found) :
    allNodeFindings .structural nodes = .ok (structuralPart found) := by
  induction nodes generalizing found with
  | nil =>
    cases h
    rfl
  | cons node rest ih =>
    unfold allNodeFindings at h ⊢
    split at h
    · cases h
    · next first =>
      split at h
      · cases h
      · next later =>
        rw [nodeFindings_nest first, ih later, ← Except.ok.inj h, structuralPart_append]

/-- Where the larger profile comes to findings, the smaller one comes to the structural ones. -/
theorem findings_nest {nodes : List Node} {edges : List Edge} {found : List Finding}
    (h : findings .generated nodes edges = .ok found) :
    findings .structural nodes edges = .ok (structuralPart found) := by
  by_cases given : nodes = []
  · subst given
    cases h
    rfl
  · simp only [findings, List.isEmpty_iff, given, if_false] at h ⊢
    split at h
    · cases h
    · next settings found =>
      have naming := (reports_naming (soundNodes [] nodes)).structuralPart_eq_nil (by decide)
      have presence := (reports_presence (soundNodes [] nodes)).structuralPart_eq_nil (by decide)
      have references :=
        (reports_references (soundNodes [] nodes)).structuralPart_eq_nil (by decide)
      rw [allNodeFindings_nest found, ← Except.ok.inj h]
      simp only [structuralPart_append, structuralPart_branchFindings, naming, presence, references,
        (reports_identity _ _).structuralPart_eq_self (by decide),
        (reports_edges _ _).structuralPart_eq_self (by decide),
        (reports_meeting _ _).structuralPart_eq_self (by decide),
        (reports_cycle _ _).structuralPart_eq_self (by decide),
        (reports_orphans _ _).structuralPart_eq_self (by decide),
        reduceCtorEq, if_true, if_false, List.append_nil]

theorem structuralPart_findings {nodes : List Node} {edges : List Edge} {found : List Finding}
    (h : findings .structural nodes edges = .ok found) : structuralPart found = found := by
  by_cases given : nodes = []
  · subst given
    cases h
    rfl
  · have branches (sound : List Node) (links : List Edge) :
        structuralPart (branchFindings .structural sound links) =
          branchFindings .structural sound links := by
      rw [← structuralPart_branchFindings, structuralPart, structuralPart, List.filter_filter]
      simp
    have retrieval (sound : List Node) :
        structuralPart (sound.flatMap retrievalFindings) = sound.flatMap retrievalFindings :=
      (Reports.flatMap fun n _ => reports_retrieval n).structuralPart_eq_self (by decide)
    rw [findings_structural given] at h
    rw [← Except.ok.inj h]
    simp only [structuralPart_append, branches, retrieval,
      (reports_identity _ _).structuralPart_eq_self (by decide),
      (reports_edges _ _).structuralPart_eq_self (by decide),
      (reports_meeting _ _).structuralPart_eq_self (by decide),
      (reports_cycle _ _).structuralPart_eq_self (by decide),
      (reports_orphans _ _).structuralPart_eq_self (by decide)]

/-- A validation reports rules of its profile only. -/
theorem includes_of_mem_findings {profile : Profile} {nodes : List Node} {edges : List Edge}
    {found : List Finding} (h : findings profile nodes edges = .ok found) :
    ∀ f ∈ found, profile.includes f.rule.profile = true := by
  intro f mem
  cases profile with
  | generated => rfl
  | structural =>
    rw [← structuralPart_findings h] at mem
    rw [of_decide_eq_true (List.mem_filter.1 mem).2]
    rfl

end Validation

/-! ### Reports -/

/-- The standard catalog lists for each profile the rules that it includes. -/
theorem Rule.code_mem_codesFor_iff (rule : Rule) (profile : Profile) :
    rule.code ∈ Catalog.standard.codesFor profile ↔ profile.includes rule.profile = true := by
  have listed : ∀ rule ∈ Rule.all, ∀ profile ∈ Profile.all,
      (rule.code ∈ Catalog.standard.codesFor profile ↔ profile.includes rule.profile = true) := by
    decide +kernel
  exact listed rule (mem_all rule) profile (by cases profile <;> decide)

/-- The report without the issues that have none of the codes. -/
def Report.only (report : Report) (codes : List String) : Report :=
  ⟨report.issues.filter fun issue => codes.contains issue.code⟩

namespace Validator

/-- The profiles of a validation go together: where the larger one comes to a report, the smaller
one comes to the part of it on its own codes, and each reports only codes that are listed for it. -/
structure ProfilesNest (validate : Profile → Except Fault Report) : Prop where
  restricts : ∀ full, validate .generated = .ok full →
    validate .structural = .ok (full.only (Catalog.standard.codesFor .structural))
  listed : ∀ profile report, validate profile = .ok report →
    ∀ issue ∈ report.issues, issue.code ∈ Catalog.standard.codesFor profile

theorem profilesNest_report (nodes : List Node) (edges : List Edge) :
    ProfilesNest fun profile => report ⟨.standard, profile⟩ nodes edges where
  restricts full run := by
    simp only [report] at run ⊢
    split at run
    · cases run
    · next found given =>
      rw [Validation.findings_nest given, ← Except.ok.inj run]
      have same : (found.map Catalog.standard.issueOf).filter
          (fun issue => (Catalog.standard.codesFor .structural).contains issue.code) =
            (Validation.structuralPart found).map Catalog.standard.issueOf := by
        rw [List.filter_map, Validation.structuralPart]
        refine congrArg _ (List.filter_congr fun f _ => ?_)
        rw [Bool.eq_iff_iff, Function.comp_apply, List.contains_iff_mem, Catalog.code_issueOf,
          Rule.code_mem_codesFor_iff, decide_eq_true_iff, Profile.structural_includes_iff]
      exact congrArg (fun issues => Except.ok (Report.mk issues)) same.symm
  listed profile given run issue mem := by
    simp only [report] at run
    split at run
    · cases run
    · next found findings =>
      rw [← Except.ok.inj run] at mem
      obtain ⟨f, here, rfl⟩ := List.mem_map.1 mem
      exact (f.rule.code_mem_codesFor_iff profile).2
        (Validation.includes_of_mem_findings findings f here)

/-- The profiles go together on nodes and edges and on raw documents. -/
theorem profiles_nest :
    (∀ nodes edges, ProfilesNest fun profile => report ⟨.standard, profile⟩ nodes edges) ∧
      ∀ nodes edges, ProfilesNest fun profile => reportRaw ⟨.standard, profile⟩ nodes edges := by
  refine ⟨profilesNest_report, fun nodes edges => ?_⟩
  unfold reportRaw
  cases Workflow.ofRaw nodes edges with
  | ok w => exact profilesNest_report w.nodes w.edges
  | error e =>
    have listed (profile : Profile) :
        Rule.notArrays.code ∈ Catalog.standard.codesFor profile :=
      (Rule.code_mem_codesFor_iff _ profile).2 (by cases profile <;> rfl)
    have whole : Report.only ⟨[Catalog.standard.issueOf (.onGraph .notArrays)]⟩
        (Catalog.standard.codesFor .structural) =
          ⟨[Catalog.standard.issueOf (.onGraph .notArrays)]⟩ := by
      simp [Report.only, listed .structural]
    refine ⟨fun full run => ?_, fun profile report run issue mem => ?_⟩
    · rw [← Except.ok.inj run, whole]
    · cases run
      rw [List.mem_singleton.1 mem]
      exact listed profile

/-- A language model and a retrieval node that are neither labelled nor connected. -/
def unconnected : List Node := [{ id := "m", type := "llm" }, { id := "r", type := "rag" }]

theorem profiles_nest_unconnected :
    ∃ full, report ⟨.standard, .generated⟩ unconnected [] = .ok full ∧
      full.codes = ["FFV-NODE-003", "FFV-NODE-003", "FFV-GRAPH-001", "FFV-GRAPH-002",
        "FFV-STRUCT-004", "FFV-STRUCT-004", "FFV-LLM-002", "FFV-RAG-001"] ∧
      report ⟨.standard, .structural⟩ unconnected [] =
        .ok (full.only (Catalog.standard.codesFor .structural)) := by
  have codes : (report ⟨.standard, .generated⟩ unconnected []).toOption.map Report.codes =
      some ["FFV-NODE-003", "FFV-NODE-003", "FFV-GRAPH-001", "FFV-GRAPH-002",
        "FFV-STRUCT-004", "FFV-STRUCT-004", "FFV-LLM-002", "FFV-RAG-001"] := by decide +kernel
  cases run : report ⟨.standard, .generated⟩ unconnected [] with
  | error fault =>
    rw [run] at codes
    cases codes
  | ok full =>
    rw [run] at codes
    exact ⟨full, rfl, Option.some.inj codes, (profiles_nest.1 unconnected []).restricts full run⟩

end Validator

end WorkflowRepair
