import WorkflowRepair.Proofs.Graph.Route
import WorkflowRepair.Proofs.Validation.Rules
import WorkflowRepair.Proofs.Validation.WellFormed

/-!
What a report says of nodes off every way. One pass alone reports that rule, so the issues with its
code are what this pass has found, in its order: among the nodes of sound identity, those without a
place on a walk from an input to an output, or without an edge where there are no such walks.
-/

namespace WorkflowRepair

namespace Validation

/-! ### Nodes off every way -/

/-- The ids of the nodes that the arcs do not cover. -/
def uncovered {ε : Type} [Arc ε] (nodes : List Node) (edges : List ε) : List String :=
  match Graph.coverage? (idsOfKind nodes .input) (idsOfKind nodes .output) edges nodes.length with
  | none => []
  | some coverage => (nodes.filter fun n => !coverage.holds n.id).map Node.id

theorem uncovered_congr {ε ε' : Type} [Arc ε] [Arc ε'] {edges : List ε} {edges' : List ε'}
    (nodes : List Node) (same : edges'.map Arc.ends = edges.map Arc.ends) :
    uncovered nodes edges' = uncovered nodes edges := by
  rw [uncovered, uncovered, Graph.coverage?_congr same]

theorem orphanFindings_eq (nodes : List Node) (edges : List Edge) :
    orphanFindings nodes edges = (uncovered nodes edges).map fun id => .onNode .orphan id none := by
  unfold orphanFindings uncovered
  cases Graph.coverage? (idsOfKind nodes .input) (idsOfKind nodes .output) edges nodes.length with
  | none => rfl
  | some coverage => simp only [List.map_map, Function.comp_def]

/-- Of all passes over a workflow only that over the ways finds nodes off every way. -/
theorem filter_orphan {profile : Profile} {nodes : List Node} {edges : List Edge}
    {found : List Finding} (run : findings profile nodes edges = .ok found) :
    found.filter (·.rule = .orphan) =
      orphanFindings (soundNodes [] nodes) (soundEdges (soundNodes [] nodes) edges) := by
  by_cases given : nodes = []
  · subst given
    rw [← Except.ok.inj run]
    rfl
  · obtain ⟨settings, same⟩ := filter_findings given run .orphan
    have own : (passes profile nodes edges settings).filter (.orphan ∈ ·.1) = [([.orphan],
        orphanFindings (soundNodes [] nodes) (soundEdges (soundNodes [] nodes) edges))] := rfl
    rw [same, own, List.flatMap_singleton]
    exact (reports_orphans _ _).filter_eq_self

/-- The places of the issues on nodes off every way are these nodes, where all have an id. -/
theorem places_of_orphans {nodes : List Node} (named : ∀ n ∈ nodes, n.id ≠ "") (catalog : Catalog)
    (edges : List Edge) :
    ((orphanFindings nodes edges).map catalog.issueOf).map (·.location.nodeId) =
      (uncovered nodes edges).map some := by
  rw [orphanFindings_eq, List.map_map, List.map_map]
  refine List.map_congr_left fun id mem => ?_
  have filled : id ≠ "" := by
    unfold uncovered at mem
    split at mem
    · cases mem
    · obtain ⟨n, here, rfl⟩ := List.mem_map.1 mem
      exact named n (List.mem_filter.1 here).1
  show (some id).filter (· ≠ "") = some id
  rw [Option.filter_some, if_pos (decide_eq_true filled)]

/-! ### The place of a node -/

/-- A node has a place in the graph: where there are inputs and outputs, a walk from an input to an
output comes by it; where one of them is missing, an edge touches it or it is the only node. -/
structure Placed (nodes : List Node) (edges : List Edge) (n : Node) : Prop where
  through : (∃ i ∈ nodes, i.isKind .input = true) → (∃ o ∈ nodes, o.isKind .output = true) →
    ∃ i ∈ nodes, i.isKind .input = true ∧ ∃ o ∈ nodes, o.isKind .output = true ∧
      ∃ ids, Graph.Route edges i.id o.id ids ∧ n.id ∈ ids
  linked : ¬ ((∃ i ∈ nodes, i.isKind .input = true) ∧ ∃ o ∈ nodes, o.isKind .output = true) →
    2 ≤ nodes.length → ∃ e ∈ edges, e.source = n.id ∨ e.target = n.id

theorem placed_iff {nodes : List Node} {edges : List Edge} {n : Node} :
    Placed nodes edges n ↔ (Graph.coverage? (idsOfKind nodes .input) (idsOfKind nodes .output) edges
      nodes.length).all (·.holds n.id) = true := by
  unfold Graph.coverage?
  by_cases ends : (∃ i ∈ nodes, i.isKind .input = true) ∧ ∃ o ∈ nodes, o.isKind .output = true
  · rw [if_pos (covers_both_iff.2 ends)]
    simp only [Option.all_some, Graph.Coverage.holds, Bool.and_eq_true, List.contains_iff_mem,
      Graph.mem_forward, Graph.mem_backward, exists_mem_idsOfKind]
    constructor
    · intro placed
      obtain ⟨i, hi, input, o, ho, output, walk⟩ := placed.through ends.1 ends.2
      obtain ⟨before, after⟩ := Graph.exists_route_iff.1 walk
      exact ⟨⟨i, hi, input, before⟩, o, ho, output, after⟩
    · rintro ⟨⟨i, hi, input, before⟩, o, ho, output, after⟩
      exact ⟨fun _ _ => ⟨i, hi, input, o, ho, output, Graph.exists_route_iff.2 ⟨before, after⟩⟩,
        fun lacking => absurd ends lacking⟩
  · rw [if_neg (mt covers_both_iff.1 ends)]
    have outside : Placed nodes edges n ↔
        (2 ≤ nodes.length → ∃ e ∈ edges, e.source = n.id ∨ e.target = n.id) :=
      ⟨fun placed => placed.linked ends, fun linked => ⟨fun i o => absurd ⟨i, o⟩ ends,
        fun _ => linked⟩⟩
    rw [outside]
    by_cases few : nodes.length < 2
    · rw [if_pos few]
      exact iff_of_true (fun two => absurd two (Nat.not_le_of_lt few)) rfl
    · rw [if_neg few, imp_iff_right (Nat.le_of_not_lt few)]
      simp only [Option.all_some, Graph.Coverage.holds, Bool.and_self, List.contains_iff_mem]
      exact Graph.mem_linked.symm

instance (nodes : List Node) (edges : List Edge) (n : Node) : Decidable (Placed nodes edges n) :=
  decidable_of_iff _ placed_iff.symm

/-- The nodes that are not covered are those without a place. -/
theorem uncovered_eq (nodes : List Node) (edges : List Edge) :
    uncovered nodes edges = (nodes.filter fun n => ¬ Placed nodes edges n).map Node.id := by
  simp only [uncovered, placed_iff]
  cases Graph.coverage? (idsOfKind nodes .input) (idsOfKind nodes .output) edges nodes.length with
  | none => simp
  | some coverage => simp

/-- The edges between nodes of the list. -/
def edgesAmong (nodes : List Node) (edges : List Edge) : List Edge :=
  edges.filter fun e => e.source ∈ nodes.map Node.id ∧ e.target ∈ nodes.map Node.id

end Validation

namespace Validator

open Validation

/-- The nodes that a report names as off every way are, in their order, the nodes kept by the
identity check that have no place in the graph of the edges among them; and under the structural
profile there always is a report. -/
theorem orphans_exact (catalog : Catalog) (nodes : List Node) (edges : List Edge) :
    (∃ report, Validator.report ⟨catalog, .structural⟩ nodes edges = .ok report) ∧
      ∀ profile report, Validator.report ⟨catalog, profile⟩ nodes edges = .ok report →
        let kept := soundNodes [] nodes
        (report.issues.filter (·.code = "FFV-STRUCT-004")).map (·.location.nodeId) =
          (kept.filter fun n => ¬ Placed kept (edgesAmong kept edges) n).map
            fun n => some n.id := by
  constructor
  · obtain ⟨found, run, -⟩ := structural_findings nodes edges
    exact ⟨⟨found.map catalog.issueOf⟩, by simp only [report, run]⟩
  · intro profile report run
    have named : ∀ n ∈ soundNodes [] nodes, n.id ≠ "" :=
      fun n mem => (identified_of_mem_soundNodes mem).id
    simp only [Validator.report] at run
    split at run
    · cases run
    · next found findings =>
      have orphans := filter_orphan findings
      rw [soundEdges_eq_filter named] at orphans
      have issues := issues_of_rule catalog found .orphan
      rw [orphans] at issues
      have places := places_of_orphans named catalog (edgesAmong (soundNodes [] nodes) edges)
      rw [uncovered_eq, List.map_map (l := List.filter _ _)] at places
      rw [← Except.ok.inj run]
      exact (congrArg (List.map _) issues).trans places

/-- A second node with an id, a node with a blank in its id and an edge to no node, beside a walk
from the input to the output and a tool that only leads to the output. -/
def scattered : Workflow :=
  { nodes := [{ id := "i", type := "input" }, { id := "a", type := "llm" },
      { id := "a", type := "output" }, { id := "b c", type := "branch" },
      { id := "t", type := "tool" },
      { id := "o", type := "output" }]
    edges := [{ source := "i", target := "a" }, { source := "a", target := "o" },
      { source := "i", target := "b c" }, { source := "b c", target := "t" },
      { source := "i", target := "x" }, { source := "t", target := "o" }] }

/-- The walk to the tool is none, because it comes by a node that is left out. -/
theorem orphans_exact_scattered :
    ∃ report, Validator.report {} scattered.nodes scattered.edges = .ok report ∧
      (report.issues.filter (·.code = "FFV-STRUCT-004")).map (·.location.nodeId) = [some "t"] := by
  obtain ⟨⟨report, run⟩, exactly⟩ := orphans_exact .standard scattered.nodes scattered.edges
  refine ⟨report, run, (exactly .structural report run).trans ?_⟩
  decide +kernel

end Validator

end WorkflowRepair
