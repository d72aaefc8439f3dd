import WorkflowRepair.Proofs.Validation.Edges
import WorkflowRepair.Proofs.Validation.Settings
import WorkflowRepair.Validation

/-!
The structural profile as one property of nodes and edges. A report under it has no issues exactly
when the property holds, so the passes hide nothing from each other.
-/

namespace WorkflowRepair

namespace Validation

/-- What the structural profile asks of nodes and edges. -/
structure WellFormed (nodes : List Node) (edges : List Edge) : Prop where
  inhabited : nodes ≠ []
  identified : ∀ n ∈ nodes, Identified n
  distinct : (nodes.map Node.id).Nodup
  anchored : Anchored nodes edges
  simple : (edges.map Edge.pair).Nodup
  acyclic : Graph.Acyclic edges
  plain : ∀ e ∈ edges, (∀ n ∈ nodes, n.id = e.source → n.isKind .branch = false) →
    e.sourceHandle = .null ∨ e.sourceHandle = .str ""
  branching : ∀ n ∈ nodes, n.isKind .branch = true → Branches edges n
  covered : Covered nodes edges
  retrieving : ∀ n ∈ nodes, n.isKind .rag = true →
    RetrievesStatic n.data ∨ RetrievesVariable n.data

variable {nodes : List Node} {edges : List Edge}

/-- Only edges that leave a branch have a handle. -/
theorem plain_iff (distinct : (nodes.map Node.id).Nodup) :
    (∀ e ∈ edges, e.hasHandle = true → hasKind nodes e.source .branch = true) ↔
      ∀ e ∈ edges, (∀ n ∈ nodes, n.id = e.source → n.isKind .branch = false) →
        e.sourceHandle = .null ∨ e.sourceHandle = .str "" := by
  refine forall₂_congr fun e _ => ?_
  rw [hasKind_iff distinct, hasHandle_iff]
  constructor
  · intro plain none
    by_cases empty : e.sourceHandle = .str ""
    · exact .inr empty
    · refine .inl (Classical.byContradiction fun given => ?_)
      obtain ⟨n, hn, same, isBranch⟩ := plain ⟨given, empty⟩
      rw [none n hn same] at isBranch
      cases isBranch
  · rintro plain ⟨given, filled⟩
    refine Classical.byContradiction fun none => ?_
    rcases plain fun n hn same => Bool.eq_false_iff.2 fun isBranch => none ⟨n, hn, same, isBranch⟩
      with unset | empty
    · exact given unset
    · exact filled empty

theorem edgeFindings_eq_nil_iff (named : ∀ n ∈ nodes, n.id ≠ "") :
    edgeFindings nodes edges = [] ↔ Anchored nodes edges ∧ (edges.map Edge.pair).Nodup ∧
      ∀ e ∈ edges, e.hasHandle = true → hasKind nodes e.source .branch = true := by
  rw [edgeFindings, List.append_eq_nil_iff, endpointFindings_eq_nil_iff named]
  refine and_congr_right fun anchored => ?_
  rw [soundEdges_eq_self named anchored, connectionFindings_eq_nil_iff, fresh_nil_iff]

/-- All findings of the structural profile. -/
theorem findings_structural (given : nodes ≠ []) :
    findings .structural nodes edges = .ok (
      let sound := soundNodes [] nodes
      let links := soundEdges sound edges
      identityFindings [] nodes ++ edgeFindings sound edges
        ++ branchFindings .structural sound links ++ meetingFindings sound links
        ++ cycleFindings sound links ++ orphanFindings sound links
        ++ sound.flatMap retrievalFindings) := by
  simp [findings, given, allNodeFindings_structural]

/-- The structural profile always comes to findings, and to none exactly on what is well formed. -/
theorem structural_findings (nodes : List Node) (edges : List Edge) :
    ∃ found, findings .structural nodes edges = .ok found ∧
      (found = [] ↔ WellFormed nodes edges) := by
  by_cases given : nodes = []
  · subst given
    exact ⟨[.onGraph .noNodes], rfl, nofun, fun h => absurd rfl h.inhabited⟩
  · refine ⟨_, findings_structural given, ?_⟩
    simp only [List.append_eq_nil_iff]
    constructor
    · rintro ⟨⟨⟨⟨⟨⟨identity, connection⟩, branch⟩, -⟩, cycle⟩, orphan⟩, settings⟩
      obtain ⟨identified, fresh⟩ := identityFindings_eq_nil_iff.1 identity
      have distinct := fresh_nil_iff.1 fresh
      have named : ∀ n ∈ nodes, n.id ≠ "" := fun n hn => (identified n hn).id
      rw [soundNodes_eq_self identity] at connection branch cycle orphan settings
      obtain ⟨anchored, simple, plain⟩ := (edgeFindings_eq_nil_iff named).1 connection
      rw [soundEdges_eq_self named anchored] at branch cycle orphan
      refine ⟨given, identified, distinct, anchored, simple, ?_, ?_, ?_, ?_, ?_⟩
      · exact (cycleFindings_eq_nil_iff anchored).1 cycle
      · exact (plain_iff distinct).1 plain
      · exact branchFindings_eq_nil_iff.1 branch
      · exact orphanFindings_eq_nil_iff.1 orphan
      · exact fun n hn => retrievalFindings_eq_nil_iff.1 (List.flatMap_eq_nil_iff.1 settings n hn)
    · intro h
      have identity : identityFindings [] nodes = [] :=
        identityFindings_eq_nil_iff.2 ⟨h.identified, fresh_nil_iff.2 h.distinct⟩
      have named : ∀ n ∈ nodes, n.id ≠ "" := fun n hn => (h.identified n hn).id
      rw [soundNodes_eq_self identity, soundEdges_eq_self named h.anchored]
      refine ⟨⟨⟨⟨⟨⟨identity, ?_⟩, ?_⟩, ?_⟩, ?_⟩, ?_⟩, ?_⟩
      · exact (edgeFindings_eq_nil_iff named).2
          ⟨h.anchored, h.simple, (plain_iff h.distinct).2 h.plain⟩
      · exact branchFindings_eq_nil_iff.2 h.branching
      · exact meetingFindings_eq_nil h.simple
      · exact (cycleFindings_eq_nil_iff h.anchored).2 h.acyclic
      · exact orphanFindings_eq_nil_iff.2 h.covered
      · refine List.flatMap_eq_nil_iff.2 fun n hn => ?_
        exact retrievalFindings_eq_nil_iff.2 (h.retrieving n hn)

end Validation

/-- A report under the structural profile is always made, in the words of any catalog, and it is
valid exactly when the nodes and edges are well formed. -/
theorem Validator.isValid_structural_iff (catalog : Catalog) (nodes : List Node)
    (edges : List Edge) :
    ∃ report, Validator.report ⟨catalog, .structural⟩ nodes edges = .ok report ∧
      (report.isValid = true ↔ Validation.WellFormed nodes edges) := by
  obtain ⟨found, run, none⟩ := Validation.structural_findings nodes edges
  refine ⟨⟨found.map catalog.issueOf⟩, by simp only [report, run], ?_⟩
  rw [← none]
  simp [Report.isValid]

end WorkflowRepair
