import Mathlib.Data.List.Nodup
import WorkflowRepair.Proofs.Graph.Reach
import WorkflowRepair.Proofs.Validation.Nodes
import WorkflowRepair.Validation.Edges

/-!
When the rules on edges and on the graph find nothing. Each pass over the edges is told as a
property of the whole lists; where the ends of all edges are nodes, no edge is left out of the later
passes.
-/

namespace WorkflowRepair.Validation

open Relation

theorem knows_iff {nodes : List Node} {id : String} :
    knows nodes id = true ↔ id ∈ nodes.map Node.id := by
  simp [knows]

/-- Of nodes with an id each, the kind of an id is that of its only node. -/
theorem hasKind_iff {nodes : List Node} {id : String} {kind : NodeKind}
    (distinct : (nodes.map Node.id).Nodup) :
    hasKind nodes id kind = true ↔ ∃ n ∈ nodes, n.id = id ∧ n.isKind kind = true := by
  unfold hasKind
  cases found : nodes.find? fun n => n.id == id with
  | none =>
    have missing := List.find?_eq_none.1 found
    simp only [Bool.false_eq_true, false_iff, not_exists, not_and]
    intro n hn same
    exact absurd (beq_iff_eq.2 same) (missing n hn)
  | some node =>
    have here := List.mem_of_find?_eq_some found
    have same : node.id = id := by simpa using List.find?_some found
    constructor
    · intro isKind
      exact ⟨node, here, same, isKind⟩
    · rintro ⟨n, hn, same', isKind⟩
      have one : n = node := List.inj_on_of_nodup_map distinct hn here (same'.trans same.symm)
      rw [← one]
      exact isKind

theorem endpointFinding?_eq_none_iff {nodes : List Node} {edge : Edge}
    (named : ∀ n ∈ nodes, n.id ≠ "") :
    endpointFinding? nodes edge = none ↔
      edge.source ∈ nodes.map Node.id ∧ edge.target ∈ nodes.map Node.id := by
  have given {id : String} (mem : id ∈ nodes.map Node.id) : id ≠ "" := by
    obtain ⟨n, hn, rfl⟩ := List.mem_map.1 mem
    exact named n hn
  unfold endpointFinding?
  constructor
  · intro h
    split at h
    · cases h
    · split at h
      · cases h
      · next source =>
        split at h
        · cases h
        · next target =>
          simp only [Bool.not_eq_true', Bool.not_eq_false] at source target
          exact ⟨knows_iff.1 source, knows_iff.1 target⟩
  · rintro ⟨source, target⟩
    rw [if_neg (not_or.2 ⟨given source, given target⟩), if_neg (by simp [knows_iff.2 source]),
      if_neg (by simp [knows_iff.2 target])]

/-- The ends of all edges are nodes. -/
def Anchored (nodes : List Node) (edges : List Edge) : Prop :=
  ∀ e ∈ edges, e.source ∈ nodes.map Node.id ∧ e.target ∈ nodes.map Node.id

theorem endpointFindings_eq_nil_iff {nodes : List Node} {edges : List Edge}
    (named : ∀ n ∈ nodes, n.id ≠ "") :
    edges.filterMap (endpointFinding? nodes) = [] ↔ Anchored nodes edges := by
  rw [List.filterMap_eq_nil_iff]
  exact forall₂_congr fun e _ => endpointFinding?_eq_none_iff named

/-- The edges that are kept are those between nodes. -/
theorem soundEdges_eq_filter {nodes : List Node} (named : ∀ n ∈ nodes, n.id ≠ "")
    (edges : List Edge) :
    soundEdges nodes edges = edges.filter fun e =>
      e.source ∈ nodes.map Node.id ∧ e.target ∈ nodes.map Node.id := by
  refine List.filter_congr fun e _ => ?_
  rw [Bool.eq_iff_iff, decide_eq_true_iff, Option.isNone_iff_eq_none]
  exact endpointFinding?_eq_none_iff named

theorem soundEdges_eq_self {nodes : List Node} {edges : List Edge}
    (named : ∀ n ∈ nodes, n.id ≠ "") (anchored : Anchored nodes edges) :
    soundEdges nodes edges = edges := by
  refine List.filter_eq_self.2 fun e he => ?_
  rw [(endpointFinding?_eq_none_iff named).2 (anchored e he)]
  rfl

/-- Nothing is wrong with the connections exactly when no pair of ends repeats and only edges that
leave a branch have a handle. -/
theorem connectionFindings_eq_nil_iff {nodes : List Node} {seen : List (String × String)}
    {edges : List Edge} :
    connectionFindings nodes seen edges = [] ↔ Fresh Edge.pair seen edges ∧
      ∀ e ∈ edges, e.hasHandle = true → hasKind nodes e.source .branch = true := by
  induction edges generalizing seen with
  | nil => simp [connectionFindings, Fresh]
  | cons edge rest ih =>
    have new (finding : Finding) :
        (if seen.contains edge.pair then [finding] else []) = [] ↔ edge.pair ∉ seen := by
      simp
    have plain (finding : Finding) :
        (if edge.hasHandle && !hasKind nodes edge.source .branch then [finding] else []) = [] ↔
          (edge.hasHandle = true → hasKind nodes edge.source .branch = true) := by
      simp
    unfold connectionFindings
    rw [List.append_eq_nil_iff, List.append_eq_nil_iff, new, plain, ih, fresh_cons,
      List.forall_mem_cons]
    exact and_and_and_comm

theorem hasHandle_iff {edge : Edge} :
    edge.hasHandle = true ↔ edge.sourceHandle ≠ .null ∧ edge.sourceHandle ≠ .str "" := by
  simp [Edge.hasHandle]

/-- Two edges leave a branch, one by each exit. -/
def Branches (edges : List Edge) (node : Node) : Prop :=
  ∃ a b, Arc.leaving edges node.id = [a, b] ∧
    (a.sourceHandle = .str "true" ∧ b.sourceHandle = .str "false" ∨
      a.sourceHandle = .str "false" ∧ b.sourceHandle = .str "true")

theorem exit?_eq_iff {edge : Edge} {exit : Exit} :
    edge.exit? = some exit ↔ edge.sourceHandle = .str exit.handle := by
  unfold Edge.exit? Exit.ofHandle?
  constructor
  · intro h
    split at h
    · next given =>
      cases h
      exact given
    · next given =>
      cases h
      exact given
    · cases h
  · intro given
    rw [given]
    cases exit <;> rfl

theorem usesBothExits_pair {a b : Edge} :
    usesBothExits [a, b] = true ↔
      a.exit? = some .yes ∧ b.exit? = some .no ∨ a.exit? = some .no ∧ b.exit? = some .yes := by
  simp only [usesBothExits, List.any_cons, List.any_nil, Bool.or_false, Bool.and_eq_true,
    Bool.or_eq_true, beq_iff_eq]
  constructor
  · rintro ⟨yes | yes, no | no⟩
    · rw [yes] at no
      cases no
    · exact .inl ⟨yes, no⟩
    · exact .inr ⟨no, yes⟩
    · rw [yes] at no
      cases no
  · rintro (⟨yes, no⟩ | ⟨no, yes⟩)
    · exact ⟨.inl yes, .inr no⟩
    · exact ⟨.inr yes, .inl no⟩

theorem exitFindings_eq_nil_iff {edges : List Edge} {node : Node} :
    exitFindings edges node = [] ↔ Branches edges node := by
  simp only [exitFindings, Branches]
  cases Arc.leaving edges node.id with
  | nil => simp
  | cons a rest =>
    cases rest with
    | nil => simp
    | cons b more =>
      cases more with
      | cons c others => simp
      | nil =>
        have pair : (∃ a' b', [a, b] = [a', b'] ∧
            (a'.sourceHandle = .str "true" ∧ b'.sourceHandle = .str "false" ∨
              a'.sourceHandle = .str "false" ∧ b'.sourceHandle = .str "true")) ↔
            usesBothExits [a, b] = true := by
          simp [usesBothExits_pair, exit?_eq_iff, Exit.handle]
        rw [pair]
        simp

theorem branchFindings_eq_nil_iff {nodes : List Node} {edges : List Edge} :
    branchFindings .structural nodes edges = [] ↔
      ∀ n ∈ nodes, n.isKind .branch = true → Branches edges n := by
  rw [branchFindings, List.flatMap_eq_nil_iff]
  simp only [List.mem_filter, and_imp]
  refine forall₃_congr fun n _ _ => ?_
  rw [← exitFindings_eq_nil_iff]
  simp

/-- Both exits of a branch lead to one node only where a pair of ends repeats. -/
theorem meetingFindings_eq_nil {nodes : List Node} {edges : List Edge}
    (simple : (edges.map Edge.pair).Nodup) : meetingFindings nodes edges = [] := by
  refine List.filterMap_eq_nil_iff.2 fun target _ => ?_
  have apart : meetingBranch? (edges.filter fun e => hasKind nodes e.source .branch) target =
      none := by
    refine List.find?_eq_none.2 fun id _ both => ?_
    simp only [usesBothExits, Bool.and_eq_true, List.any_eq_true, Arc.leaving, List.mem_filter,
      beq_iff_eq, decide_eq_true_eq] at both
    obtain ⟨⟨a, ⟨⟨⟨ha, -⟩, intoA⟩, fromA⟩, yes⟩, b, ⟨⟨⟨hb, -⟩, intoB⟩, fromB⟩, no⟩ := both
    have same : a.pair = b.pair :=
      Prod.ext_iff.2 ⟨fromA.trans fromB.symm, intoA.trans intoB.symm⟩
    rw [List.inj_on_of_nodup_map simple ha hb same, no] at yes
    cases yes
  rw [apart]
  split <;> rfl

theorem cycleFindings_eq_nil_iff {nodes : List Node} {edges : List Edge}
    (anchored : Anchored nodes edges) :
    cycleFindings nodes edges = [] ↔ Graph.Acyclic edges := by
  rw [← Graph.backEdge?_eq_none_iff fun e he => (anchored e he).1]
  unfold cycleFindings
  split
  · next found => simp [found]
  · next none => simp [none]

/-- Every node has its place between the inputs and the outputs; where one of them is missing, no
node stands alone beside others. -/
structure Covered (nodes : List Node) (edges : List Edge) : Prop where
  through : (∃ i ∈ nodes, i.isKind .input = true) → (∃ o ∈ nodes, o.isKind .output = true) →
    ∀ n ∈ nodes,
      (∃ i ∈ nodes, i.isKind .input = true ∧ ReflTransGen (Graph.Step edges) i.id n.id) ∧
      ∃ o ∈ nodes, o.isKind .output = true ∧ ReflTransGen (Graph.Step edges) n.id o.id
  linked : ¬ ((∃ i ∈ nodes, i.isKind .input = true) ∧ ∃ o ∈ nodes, o.isKind .output = true) →
    2 ≤ nodes.length → ∀ n ∈ nodes, ∃ e ∈ edges, e.source = n.id ∨ e.target = n.id

theorem exists_mem_idsOfKind {nodes : List Node} {kind : NodeKind} {p : String → Prop} :
    (∃ id ∈ idsOfKind nodes kind, p id) ↔ ∃ n ∈ nodes, n.isKind kind = true ∧ p n.id := by
  simp [idsOfKind, and_assoc]

theorem covers_both_iff {nodes : List Node} :
    (!(idsOfKind nodes .input).isEmpty && !(idsOfKind nodes .output).isEmpty) = true ↔
      (∃ i ∈ nodes, i.isKind .input = true) ∧ ∃ o ∈ nodes, o.isKind .output = true := by
  simp [idsOfKind]

theorem orphanFindings_eq_nil_iff {nodes : List Node} {edges : List Edge} :
    orphanFindings nodes edges = [] ↔ Covered nodes edges := by
  have covered (coverage : Graph.Coverage) :
      ((nodes.filter fun n => !coverage.holds n.id).map fun n =>
        Finding.onNode .orphan n.id none) = [] ↔
        ∀ n ∈ nodes, n.id ∈ coverage.forward ∧ n.id ∈ coverage.backward := by
    simp [Graph.Coverage.holds]
  unfold orphanFindings Graph.coverage?
  by_cases ends : (∃ i ∈ nodes, i.isKind .input = true) ∧ ∃ o ∈ nodes, o.isKind .output = true
  · rw [if_pos (covers_both_iff.2 ends)]
    simp only [covered, Graph.mem_forward, Graph.mem_backward, exists_mem_idsOfKind]
    exact ⟨fun all => ⟨fun _ _ => all, fun lacking => absurd ends lacking⟩,
      fun h => h.through ends.1 ends.2⟩
  · rw [if_neg (mt covers_both_iff.1 ends)]
    by_cases few : nodes.length < 2
    · rw [if_pos few]
      refine iff_of_true rfl ⟨fun i o => absurd ⟨i, o⟩ ends, fun _ two => ?_⟩
      omega
    · rw [if_neg few]
      simp only [covered, Graph.mem_linked, and_self]
      exact ⟨fun all => ⟨fun i o => absurd ⟨i, o⟩ ends, fun _ _ => all⟩,
        fun h => h.linked ends (Nat.le_of_not_lt few)⟩

end WorkflowRepair.Validation
