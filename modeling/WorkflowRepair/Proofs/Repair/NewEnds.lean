import WorkflowRepair.Proofs.Graph.Ends
import WorkflowRepair.Proofs.Repair.Answers
import WorkflowRepair.Proofs.Repair.EndNodes
import WorkflowRepair.Proofs.Repair.Guarantee
import WorkflowRepair.Proofs.Validation.Counts

/-!
A workflow that gets both of its ends. Everything that was there stays and no pair of ends comes
twice by what is added. Then each node is entered and left, but for the two ends, so that without a
cycle a way leads from the input over each node to the output. A cycle can only come of edges that
named the new ids before there were nodes with them.
-/

namespace WorkflowRepair.Repair

open WorkflowRepair.Graph (Ended)
open Validation (Covered Identified edgesAmong soundNodes soundEdges identityFindings)

/-! ### What is added -/

variable {w : Workflow}

theorem mem_knownPairs {p : String × String} : p ∈ knownPairs w ↔
    ∃ e ∈ w.edges, e.pair = p ∧ e.source ∈ w.nodeIds ∧ e.target ∈ w.nodeIds := by
  simp only [knownPairs, List.mem_filter, List.mem_map, Bool.and_eq_true, List.contains_iff_mem]
  constructor
  · rintro ⟨⟨e, mem, rfl⟩, source, target⟩
    exact ⟨e, mem, rfl, source, target⟩
  · rintro ⟨e, mem, rfl, source, target⟩
    exact ⟨⟨e, mem, rfl⟩, source, target⟩

theorem mem_entryIds {id : String} : id ∈ entryIds w ↔
    (∃ n ∈ w.nodes, n.id = id ∧ n.isKind .input = false ∧ n.isKind .output = false) ∧
      id ≠ "" ∧ ∀ p ∈ knownPairs w, p.2 ≠ id := by
  simp only [entryIds, List.mem_eraseDups, List.mem_map, List.mem_filter, Bool.and_eq_true,
    Bool.not_eq_true', List.any_eq_false, beq_iff_eq, decide_eq_true_eq]
  constructor
  · rintro ⟨n, ⟨mem, ⟨⟨filled, input⟩, output⟩, none⟩, rfl⟩
    exact ⟨⟨n, mem, rfl, input, output⟩, filled, none⟩
  · rintro ⟨⟨n, mem, rfl, input, output⟩, filled, none⟩
    exact ⟨n, ⟨mem, ⟨⟨filled, input⟩, output⟩, none⟩, rfl⟩

theorem mem_exitIds {id : String} : id ∈ exitIds w ↔
    (∃ n ∈ w.nodes, n.id = id ∧ n.isKind .output = false) ∧
      id ≠ "" ∧ ∀ p ∈ knownPairs w, p.1 ≠ id := by
  simp only [exitIds, List.mem_eraseDups, List.mem_map, List.mem_filter, Bool.and_eq_true,
    Bool.not_eq_true', List.any_eq_false, beq_iff_eq, decide_eq_true_eq]
  constructor
  · rintro ⟨n, ⟨mem, ⟨filled, output⟩, none⟩, rfl⟩
    exact ⟨⟨n, mem, rfl, output⟩, filled, none⟩
  · rintro ⟨⟨n, mem, rfl, output⟩, filled, none⟩
    exact ⟨n, ⟨mem, ⟨filled, output⟩, none⟩, rfl⟩

/-- An input and an output to add to the workflow, with ids of their own. -/
structure NewEnds (w : Workflow) (input output : Node) : Prop where
  isInput : input.isKind .input = true
  isOutput : output.isKind .output = true
  inputNamed : Identified input
  outputNamed : Identified output
  inputNew : input.id ∉ w.nodes.map Node.id
  outputNew : output.id ∉ w.nodes.map Node.id
  apart : input.id ≠ output.id

/-- The workflow with an input in front of its nodes and an output after them. -/
def enclosed (w : Workflow) (input output : Node) : Workflow :=
  { w with nodes := input :: w.nodes ++ [output] }

/-- The edges that connect the two ends. -/
def endEdges (w : Workflow) (input output : Node) : List Edge :=
  (entryIds (enclosed w input output)).map (fun id => { source := input.id, target := id })
    ++ (exitIds (connectInput (enclosed w input output) (some input))).map
      fun id => { source := id, target := output.id }

/-- A workflow with neither end gets both, and is as it was between them. -/
theorem exists_newEnds (noInput : w.nodes.any (·.isKind .input) = false)
    (noOutput : w.nodes.any (·.isKind .output) = false) :
    ∃ input output, NewEnds w input output ∧ (complete w).workflow =
      ⟨input :: w.nodes ++ [output], w.edges ++ endEdges w input output⟩ := by
  obtain ⟨input, given⟩ : ∃ input, inputFor? w = some input := ⟨_, if_neg (by simp [noInput])⟩
  obtain ⟨output, given'⟩ : ∃ output, outputFor? w (some input) = some output :=
    ⟨_, if_neg (by simp [noOutput])⟩
  obtain ⟨-, isInput, inputNamed, inputNew⟩ := new_of_inputFor? given
  obtain ⟨-, isOutput, outputNamed, outputNew, apart⟩ := new_of_outputFor? given'
  refine ⟨input, output, ⟨isInput, isOutput, inputNamed, outputNamed, inputNew, outputNew, ?_⟩, ?_⟩
  · exact fun same => apart (by simp [same])
  · simp only [complete, given, given', Option.toList_some, connectOutput, connectInput, endEdges,
      enclosed, List.append_assoc, List.cons_append, List.nil_append]

/-! ### Between the ends -/

theorem mem_nodeIds_iff (named : identityFindings [] w.nodes = []) {id : String} :
    id ∈ w.nodeIds ↔ id ∈ w.nodes.map Node.id := by
  refine ⟨fun mem => (List.mem_filter.1 mem).1, fun mem => mem_nodeIds_of_ne ?_ mem⟩
  obtain ⟨n, here, rfl⟩ := List.mem_map.1 mem
  exact ((Validation.identityFindings_eq_nil_iff.1 named).1 n here).id

theorem soundEdges_of_identities {nodes : List Node} (named : identityFindings [] nodes = [])
    (edges : List Edge) : soundEdges (soundNodes [] nodes) edges = edgesAmong nodes edges := by
  rw [Validation.soundNodes_eq_self named]
  exact Validation.soundEdges_eq_filter
    (fun n mem => ((Validation.identityFindings_eq_nil_iff.1 named).1 n mem).id) edges

/-- The edges that lead between nodes only once there are the two ends. -/
def caughtEdges (w : Workflow) (input output : Node) : List Edge :=
  (edgesAmong (enclosed w input output).nodes w.edges).filter fun e =>
    ¬ (e.source ∈ w.nodes.map Node.id ∧ e.target ∈ w.nodes.map Node.id)

/-- The edges between nodes when both ends are there and connected. -/
def enclosedEdges (w : Workflow) (input output : Node) : List Edge :=
  edgesAmong (enclosed w input output).nodes (w.edges ++ endEdges w input output)

section Enclosed

variable {input output : Node}

theorem mem_ids_enclosed {id : String} : id ∈ (enclosed w input output).nodes.map Node.id ↔
    id = input.id ∨ id ∈ w.nodes.map Node.id ∨ id = output.id := by
  simp [enclosed]

/-- Of the old edges those led between nodes before that lead between old nodes. -/
theorem edgesAmong_enclosed : (edgesAmong w.nodes w.edges ++ caughtEdges w input output).Perm
    (edgesAmong (enclosed w input output).nodes w.edges) := by
  have old : (edgesAmong (enclosed w input output).nodes w.edges).filter
      (fun e => e.source ∈ w.nodes.map Node.id ∧ e.target ∈ w.nodes.map Node.id) =
        edgesAmong w.nodes w.edges := by
    rw [edgesAmong, edgesAmong, List.filter_filter]
    refine List.filter_congr fun e _ => ?_
    simp only [mem_ids_enclosed, ← Bool.decide_and]
    refine decide_eq_decide.2 (and_iff_left_of_imp fun known => ?_)
    exact ⟨.inr (.inl known.1), .inr (.inl known.2)⟩
  have parts := List.filter_append_perm
    (fun e : Edge => decide (e.source ∈ w.nodes.map Node.id ∧ e.target ∈ w.nodes.map Node.id))
    (edgesAmong (enclosed w input output).nodes w.edges)
  simp only [← decide_not] at parts
  rwa [old] at parts

variable (ends : NewEnds w input output)

include ends

theorem target_of_entry {id : String} (entry : id ∈ entryIds (enclosed w input output)) :
    id ∈ w.nodes.map Node.id := by
  obtain ⟨⟨n, mem, rfl, noInput, noOutput⟩, -⟩ := mem_entryIds.1 entry
  simp only [enclosed, List.mem_append, List.mem_cons, List.not_mem_nil, or_false] at mem
  rcases mem with (rfl | old) | rfl
  · rw [ends.isInput] at noInput
    cases noInput
  · exact List.mem_map_of_mem old
  · rw [ends.isOutput] at noOutput
    cases noOutput

theorem source_of_exit {id : String}
    (exit : id ∈ exitIds (connectInput (enclosed w input output) (some input))) :
    id = input.id ∨ id ∈ w.nodes.map Node.id := by
  obtain ⟨⟨n, mem, rfl, noOutput⟩, -⟩ := mem_exitIds.1 exit
  simp only [nodes_connectInput, enclosed, List.mem_append, List.mem_cons, List.not_mem_nil,
    or_false] at mem
  rcases mem with (rfl | old) | rfl
  · exact .inl rfl
  · exact .inr (List.mem_map_of_mem old)
  · rw [ends.isOutput] at noOutput
    cases noOutput

/-- An edge that is added leads from the input to a node that was there, or to the output from a
node that was there or the input. -/
theorem mem_endEdges {e : Edge} (mem : e ∈ endEdges w input output) :
    (e.source = input.id ∧ e.target ∈ w.nodes.map Node.id) ∨
      (e.source = input.id ∨ e.source ∈ w.nodes.map Node.id) ∧ e.target = output.id := by
  rcases List.mem_append.1 mem with entry | exit
  · obtain ⟨id, here, rfl⟩ := List.mem_map.1 entry
    exact .inl ⟨rfl, target_of_entry ends here⟩
  · obtain ⟨id, here, rfl⟩ := List.mem_map.1 exit
    exact .inr ⟨source_of_exit ends here, rfl⟩

theorem anchored_endEdges : ∀ e ∈ endEdges w input output,
    e.source ∈ (enclosed w input output).nodes.map Node.id ∧
      e.target ∈ (enclosed w input output).nodes.map Node.id := by
  intro e mem
  rw [mem_ids_enclosed, mem_ids_enclosed]
  rcases mem_endEdges ends mem with ⟨source, target⟩ | ⟨source | source, target⟩
  · exact ⟨.inl source, .inr (.inl target)⟩
  · exact ⟨.inl source, .inr (.inr target)⟩
  · exact ⟨.inr (.inl source), .inr (.inr target)⟩

theorem enclosedEdges_eq : enclosedEdges w input output =
    edgesAmong (enclosed w input output).nodes w.edges ++ endEdges w input output := by
  rw [enclosedEdges, edgesAmong, List.filter_append]
  refine congrArg _ (List.filter_eq_self.2 fun e mem => ?_)
  exact decide_eq_true (anchored_endEdges ends e mem)

theorem nodup_endEdges : ((endEdges w input output).map Edge.pair).Nodup := by
  rw [endEdges, List.map_append, List.map_map, List.map_map]
  refine List.nodup_append.2 ⟨?_, ?_, ?_⟩
  · exact (nodup_eraseDups _).map fun a b same => (Prod.mk.inj same).2
  · exact (nodup_eraseDups _).map fun a b same => (Prod.mk.inj same).1
  · intro p entry q exit same
    obtain ⟨id, here, rfl⟩ := List.mem_map.1 entry
    obtain ⟨id', -, rfl⟩ := List.mem_map.1 exit
    have target : id = output.id := (Prod.mk.inj same).2
    exact ends.outputNew (target ▸ target_of_entry ends here)

theorem step_of_endEdge {e : Edge} (mem : e ∈ endEdges w input output) :
    Graph.Step (enclosedEdges w input output) e.source e.target := by
  rw [enclosedEdges_eq ends]
  exact ⟨e, List.mem_append_right _ mem, rfl, rfl⟩

/-- Between nodes that were there only edges lead that were. -/
theorem step_between {a b : String} (step : Graph.Step (enclosedEdges w input output) a b)
    (begins : a ≠ input.id) (finishes : a ≠ output.id) (begins' : b ≠ input.id)
    (finishes' : b ≠ output.id) : Graph.Step (edgesAmong w.nodes w.edges) a b := by
  obtain ⟨e, mem, rfl, rfl⟩ := step
  rw [enclosedEdges_eq ends] at mem
  rcases List.mem_append.1 mem with old | new
  · obtain ⟨here, anchored⟩ := List.mem_filter.1 old
    obtain ⟨source, target⟩ := of_decide_eq_true anchored
    rw [mem_ids_enclosed] at source target
    have known : e.source ∈ w.nodes.map Node.id ∧ e.target ∈ w.nodes.map Node.id :=
      ⟨(source.resolve_left begins).resolve_right finishes,
        (target.resolve_left begins').resolve_right finishes'⟩
    exact ⟨e, List.mem_filter.2 ⟨here, decide_eq_true known⟩, rfl, rfl⟩
  · rcases mem_endEdges ends new with ⟨source, -⟩ | ⟨-, target⟩
    · exact absurd source begins
    · exact absurd target finishes'

/-- What leads into the input or out of the output was there before the nodes. -/
theorem clean_iff : (∀ a, ¬ Graph.Step (enclosedEdges w input output) a input.id ∧
      ¬ Graph.Step (enclosedEdges w input output) output.id a) ↔
    ∀ e ∈ caughtEdges w input output, e.target ≠ input.id ∧ e.source ≠ output.id := by
  rw [enclosedEdges_eq ends]
  constructor
  · intro clean e caught
    have inside := List.mem_append_left (endEdges w input output) (List.mem_filter.1 caught).1
    exact ⟨fun same => (clean e.source).1 ⟨e, inside, rfl, same⟩,
      fun same => (clean e.target).2 ⟨e, inside, same, rfl⟩⟩
  · intro clean a
    have caught {e : Edge} (old : e ∈ edgesAmong (enclosed w input output).nodes w.edges)
        (unknown : ¬ (e.source ∈ w.nodes.map Node.id ∧ e.target ∈ w.nodes.map Node.id)) :=
      clean e (List.mem_filter.2 ⟨old, decide_eq_true unknown⟩)
    constructor
    · rintro ⟨e, mem, -, target⟩
      have target : e.target = input.id := target
      rcases List.mem_append.1 mem with old | new
      · refine (caught old fun known => ends.inputNew ?_).1 target
        exact target ▸ known.2
      · rcases mem_endEdges ends new with ⟨-, known⟩ | ⟨-, same⟩
        · exact ends.inputNew (target ▸ known)
        · exact ends.apart (target.symm.trans same)
    · rintro ⟨e, mem, source, -⟩
      have source : e.source = output.id := source
      rcases List.mem_append.1 mem with old | new
      · refine (caught old fun known => ends.outputNew ?_).2 source
        exact source ▸ known.1
      · rcases mem_endEdges ends new with ⟨same, -⟩ | ⟨same | known, -⟩
        · exact ends.apart (same.symm.trans source)
        · exact ends.apart (same.symm.trans source)
        · exact ends.outputNew (source ▸ known)

variable (named : identityFindings [] w.nodes = [])

include named

theorem identities_enclosed : identityFindings [] (enclosed w input output).nodes = [] := by
  show identityFindings [] ([input] ++ w.nodes ++ [output]) = []
  refine identities_around named ?_ ?_ ?_
  · exact List.forall_mem_cons.2 ⟨ends.inputNamed, List.forall_mem_singleton.2 ends.outputNamed⟩
  · simpa using ends.apart
  · exact List.forall_mem_cons.2 ⟨ends.inputNew, List.forall_mem_singleton.2 ends.outputNew⟩

/-- No edge that is added has the ends of one that was there. -/
theorem endEdges_new : ∀ e ∈ endEdges w input output, e.pair ∉ w.edges.map Edge.pair := by
  intro e mem known
  obtain ⟨e', here, same⟩ := List.mem_map.1 known
  obtain ⟨source, target⟩ := anchored_endEdges ends e mem
  have sound := identities_enclosed ends named
  rw [← mem_nodeIds_iff sound] at source target
  obtain ⟨source', target'⟩ := Prod.mk.inj same
  rcases List.mem_append.1 mem with entry | exit
  · obtain ⟨id, listed, rfl⟩ := List.mem_map.1 entry
    have pair : e'.pair ∈ knownPairs (enclosed w input output) :=
      mem_knownPairs.2 ⟨e', here, rfl, source' ▸ source, target' ▸ target⟩
    exact (mem_entryIds.1 listed).2.2 _ pair target'
  · obtain ⟨id, listed, rfl⟩ := List.mem_map.1 exit
    have pair : e'.pair ∈ knownPairs (connectInput (enclosed w input output) (some input)) :=
      mem_knownPairs.2 ⟨e', List.mem_append_left _ here, rfl, source' ▸ source, target' ▸ target⟩
    exact (mem_exitIds.1 listed).2.2 _ pair source'

theorem step_of_knownPair {es : List Edge} {p : String × String}
    (some : p ∈ knownPairs { enclosed w input output with edges := es })
    (kept : ∀ e ∈ es, e ∈ w.edges ++ endEdges w input output) :
    Graph.Step (enclosedEdges w input output) p.1 p.2 := by
  obtain ⟨e, mem, rfl, source, target⟩ := mem_knownPairs.1 some
  have sound := identities_enclosed ends named
  rw [mem_nodeIds_iff (w := { enclosed w input output with edges := es }) sound] at source target
  exact ⟨e, List.mem_filter.2 ⟨kept e mem, decide_eq_true ⟨source, target⟩⟩, rfl, rfl⟩

theorem id_ne_of_enclosed {id : String} (mem : id ∈ (enclosed w input output).nodes.map Node.id) :
    id ≠ "" := by
  obtain ⟨n, here, rfl⟩ := List.mem_map.1 mem
  exact ((Validation.identityFindings_eq_nil_iff.1 (identities_enclosed ends named)).1 n here).id

/-- A processing node is entered, by the input where nothing else leads to it. -/
theorem entered_enclosed {n : Node} (old : n ∈ w.nodes) (noInput : n.isKind .input = false)
    (noOutput : n.isKind .output = false) :
    ∃ a, Graph.Step (enclosedEdges w input output) a n.id := by
  have inside : n ∈ (enclosed w input output).nodes := by simp [enclosed, old]
  by_cases entry : n.id ∈ entryIds (enclosed w input output)
  · exact ⟨input.id, step_of_endEdge ends
      (List.mem_append_left _ (List.mem_map_of_mem entry))⟩
  · simp only [mem_entryIds, id_ne_of_enclosed ends named (List.mem_map_of_mem inside), ne_eq,
      not_false_iff, true_and, not_and, not_forall, not_not] at entry
    obtain ⟨p, known, target⟩ := entry ⟨n, inside, rfl, noInput, noOutput⟩
    exact ⟨p.1, target ▸ step_of_knownPair ends named known
      fun e mem => List.mem_append_left _ mem⟩

/-- A node besides the output is left, to the output where it leads nowhere else. -/
theorem left_enclosed {n : Node} (inside : n ∈ (enclosed w input output).nodes)
    (noOutput : n.isKind .output = false) :
    ∃ b, Graph.Step (enclosedEdges w input output) n.id b := by
  by_cases exit : n.id ∈ exitIds (connectInput (enclosed w input output) (some input))
  · exact ⟨output.id, step_of_endEdge ends
      (List.mem_append_right _ (List.mem_map_of_mem exit))⟩
  · simp only [mem_exitIds, id_ne_of_enclosed ends named (List.mem_map_of_mem inside), ne_eq,
      not_false_iff, true_and, not_and, not_forall, not_not, nodes_connectInput] at exit
    obtain ⟨p, known, source⟩ := exit ⟨n, inside, rfl, noOutput⟩
    refine ⟨p.2, source ▸ step_of_knownPair ends named known fun e mem => ?_⟩
    rw [endEdges, ← List.append_assoc]
    exact List.mem_append_left _ mem

/-- Once the two ends are connected, nodes are entered and left as they should be. -/
theorem ended_enclosed (plain : ∀ n ∈ w.nodes, n.isKind .input = false ∧ n.isKind .output = false) :
    Ended ((enclosed w input output).nodes.map Node.id) (enclosedEdges w input output)
      input.id output.id := by
  refine ⟨fun e mem => of_decide_eq_true (List.mem_filter.1 mem).2, mem_ids_enclosed.2 (.inl rfl),
    ends.apart, ?_, ?_⟩
  · intro id mem begins finishes
    obtain ⟨n, old, rfl⟩ := List.mem_map.1
      (((mem_ids_enclosed.1 mem).resolve_left begins).resolve_right finishes)
    exact entered_enclosed ends named old (plain n old).1 (plain n old).2
  · intro id mem finishes
    obtain ⟨n, inside, rfl⟩ := List.mem_map.1 mem
    refine left_enclosed ends named inside ?_
    simp only [enclosed, List.mem_append, List.mem_cons, List.not_mem_nil, or_false] at inside
    rcases inside with (rfl | old) | rfl
    · have isInput := ends.isInput
      simp only [Node.isKind, beq_iff_eq] at isInput
      simp [Node.isKind, isInput]
    · exact (plain n old).2
    · exact absurd rfl finishes

/-- The edges that are repeated are those that were, and those among the ones that now lead between
nodes. -/
theorem repeats_enclosed : Validation.repeats (enclosedEdges w input output) =
    Validation.repeats (edgesAmong w.nodes w.edges) +
      Validation.repeats (caughtEdges w input output) := by
  have new : ∀ e ∈ endEdges w input output,
      e.pair ∉ (edgesAmong (enclosed w input output).nodes w.edges).map Edge.pair :=
    fun e mem known =>
      endEdges_new ends named e mem ((List.filter_sublist.map Edge.pair).subset known)
  rw [enclosedEdges_eq ends, Validation.repeats_append new,
    Validation.repeats_eq_zero_iff.2 (nodup_endEdges ends), Nat.add_zero,
    ← Validation.repeats_perm edgesAmong_enclosed]
  refine Validation.repeats_append fun e caught known => ?_
  obtain ⟨e', mem, same⟩ := List.mem_map.1 known
  obtain ⟨source, target⟩ := Prod.mk.inj same
  have inside := of_decide_eq_true (List.mem_filter.1 mem).2
  rw [source, target] at inside
  exact of_decide_eq_true (List.mem_filter.1 caught).2 inside

/-- Every node lies on a way from the input to the output where there is no cycle. -/
theorem covered_enclosed (plain : ∀ n ∈ w.nodes, n.isKind .input = false ∧ n.isKind .output = false)
    (acyclic : Graph.Acyclic (enclosedEdges w input output)) :
    Covered (enclosed w input output).nodes (enclosedEdges w input output) := by
  have ended := ended_enclosed ends named plain
  have first : input ∈ (enclosed w input output).nodes := by simp [enclosed]
  have last : output ∈ (enclosed w input output).nodes := by simp [enclosed]
  constructor
  · intro _ _ n mem
    have inside : n.id ∈ (enclosed w input output).nodes.map Node.id := List.mem_map_of_mem mem
    exact ⟨⟨input, first, ends.isInput, ended.reach_first acyclic inside⟩,
      ⟨output, last, ends.isOutput, ended.reach_last acyclic inside⟩⟩
  · intro lacking
    exact absurd ⟨⟨input, first, ends.isInput⟩, ⟨output, last, ends.isOutput⟩⟩ lacking

/-! ### What is found -/

variable {profile : Profile} {found found' : List Finding}
  (ran' : Validation.findings profile (enclosed w input output).nodes
    (w.edges ++ endEdges w input output) = .ok found')

include ran'

theorem times_cycle_enclosed :
    Validation.times .cycle found' = 0 ↔ Graph.Acyclic (enclosedEdges w input output) := by
  rw [Validation.times_cycle_eq_zero_iff (by simp [enclosed]) ran',
    soundEdges_of_identities (identities_enclosed ends named), enclosedEdges]

theorem times_orphan_enclosed : Validation.times .orphan found' = 0 ↔
    Covered (enclosed w input output).nodes (enclosedEdges w input output) := by
  have sound := identities_enclosed ends named
  rw [Validation.times_orphan_eq_zero_iff (by simp [enclosed]) ran',
    soundEdges_of_identities sound, Validation.soundNodes_eq_self sound, enclosedEdges]

theorem times_duplicateEdge_enclosed
    (ran : Validation.findings profile w.nodes w.edges = .ok found) :
    Validation.times .duplicateEdge found' = Validation.times .duplicateEdge found +
      Validation.repeats (caughtEdges w input output) := by
  rw [Validation.times_duplicateEdge ran', Validation.times_duplicateEdge ran,
    soundEdges_of_identities (identities_enclosed ends named), soundEdges_of_identities named,
    ← repeats_enclosed ends named, enclosedEdges]

theorem times_presence_enclosed :
    Validation.times .noInput found' = 0 ∧ Validation.times .noOutput found' = 0 := by
  have kept := Validation.soundNodes_eq_self (identities_enclosed ends named)
  have given : (enclosed w input output).nodes ≠ [] := by simp [enclosed]
  have isInput : (soundNodes [] (enclosed w input output).nodes).any (·.isKind .input) = true := by
    rw [kept]
    simp [enclosed, ends.isInput]
  have isOutput :
      (soundNodes [] (enclosed w input output).nodes).any (·.isKind .output) = true := by
    rw [kept]
    simp [enclosed, ends.isOutput]
  exact ⟨Validation.times_presence (.inl rfl) given ran' isInput isOutput,
    Validation.times_presence (.inr rfl) given ran' isInput isOutput⟩

end Enclosed

/-- What was there stays, between a new input and a new output with ids of their own, and every edge
that is added has ends of its own. -/
structure Encloses (before after : Workflow) (input output : Node) : Prop where
  nodes : after.nodes = input :: before.nodes ++ [output]
  isInput : input.isKind .input = true
  isOutput : output.isKind .output = true
  inputNew : input.id ∉ before.nodes.map Node.id
  outputNew : output.id ∉ before.nodes.map Node.id
  apart : input.id ≠ output.id
  edges : ∃ added, after.edges = before.edges ++ added ∧ (added.map Edge.pair).Nodup ∧
    ∀ e ∈ added, e.pair ∉ before.edges.map Edge.pair

/-- A workflow without an input and an output in which nothing is wrong with the identities of nodes
and no edges between nodes form a cycle gets both ends, and its report misses neither. The report
tells no cycle, no node off every way and no more repeated edges than before exactly when, of the
edges that only now lead between nodes, none leads into the input or out of the output, and no two
have the same ends. -/
theorem complete_connects_iff {v : Validator} {before : Report} (run : v.reportOn w = .ok before)
    (named : before.codes.count "FFV-NODE-001" = 0) (once : before.codes.count "FFV-NODE-002" = 0)
    (noInput : w.nodes.any (·.isKind .input) = false)
    (noOutput : w.nodes.any (·.isKind .output) = false)
    (acyclic : Graph.Acyclic (edgesAmong w.nodes w.edges)) :
    ∃ input output after, Encloses w (complete w).workflow input output ∧
      v.reportOn (complete w).workflow = .ok after ∧
      after.codes.count "FFV-GRAPH-001" = 0 ∧ after.codes.count "FFV-GRAPH-002" = 0 ∧
      ((after.codes.count "FFV-STRUCT-001" = 0 ∧ after.codes.count "FFV-STRUCT-004" = 0 ∧
          after.codes.count "FFV-STRUCT-003" ≤ before.codes.count "FFV-STRUCT-003") ↔
        (∀ e ∈ caughtEdges w input output, e.target ≠ input.id ∧ e.source ≠ output.id) ∧
          ((caughtEdges w input output).map Edge.pair).Nodup) := by
  obtain ⟨found, ran, counts⟩ := Validator.counts_of_report run
  obtain ⟨input, output, ends, completed⟩ := exists_newEnds noInput noOutput
  obtain ⟨after, run'⟩ : ∃ after, v.reportOn (complete w).workflow = .ok after :=
    Validation.reportOn_ok_iff.2 (examinable_complete (Validation.reportOn_ok_iff.1 ⟨before, run⟩))
  obtain ⟨found', ran', counts'⟩ := Validator.counts_of_report run'
  have sound : identityFindings [] w.nodes = [] := Validation.identityFindings_eq_nil run
    (Report.has_eq_false_iff.2 named) (Report.has_eq_false_iff.2 once)
  have plain : ∀ n ∈ w.nodes, n.isKind .input = false ∧ n.isKind .output = false :=
    fun n mem => ⟨Bool.eq_false_iff.2 (List.any_eq_false.1 noInput n mem),
      Bool.eq_false_iff.2 (List.any_eq_false.1 noOutput n mem)⟩
  have cycle : after.codes.count "FFV-STRUCT-001" = Validation.times .cycle found' := counts' .cycle
  have orphan : after.codes.count "FFV-STRUCT-004" = Validation.times .orphan found' :=
    counts' .orphan
  have more : after.codes.count "FFV-STRUCT-003" = Validation.times .duplicateEdge found' :=
    counts' .duplicateEdge
  have fewer : before.codes.count "FFV-STRUCT-003" = Validation.times .duplicateEdge found :=
    counts .duplicateEdge
  rw [completed] at ran'
  obtain ⟨noMissing, noMissing'⟩ := times_presence_enclosed ends sound ran'
  refine ⟨input, output, after, ?_, run', (counts' .noInput).trans noMissing,
    (counts' .noOutput).trans noMissing', ?_⟩
  · rw [completed]
    exact ⟨rfl, ends.isInput, ends.isOutput, ends.inputNew, ends.outputNew, ends.apart, _, rfl,
      nodup_endEdges ends, endEdges_new ends sound⟩
  · have clean := ((ended_enclosed ends sound plain).acyclic_iff acyclic fun _ _ step a b c d =>
      step_between ends step a b c d).trans (clean_iff ends)
    rw [cycle, orphan, more, fewer, times_cycle_enclosed ends sound ran',
      times_orphan_enclosed ends sound ran', times_duplicateEdge_enclosed ends sound ran' ran,
      add_le_iff_nonpos_right, Nat.le_zero, Validation.repeats_eq_zero_iff, clean]
    exact ⟨fun ⟨free, _, once⟩ => ⟨free, once⟩,
      fun ⟨free, once⟩ => ⟨free, covered_enclosed ends sound plain (clean.2 free), once⟩⟩

/-- Two steps joined twice, a node alone, and edges to and from no node, one of which leads from the
input once there is one. -/
def headless : Workflow :=
  { nodes := [{ id := "a", type := "llm" }, { id := "b", type := "tool" },
      { id := "c", type := "rag" }]
    edges := [{ source := "a", target := "b" }, { source := "a", target := "b" },
      { source := "a", target := "ghost" }, { source := "auto_input", target := "b" }] }

theorem complete_connects_iff_headless :
    ∃ before after, Validator.reportOn {} headless = .ok before ∧
      Validator.reportOn {} (complete headless).workflow = .ok after ∧
      after.codes.count "FFV-STRUCT-001" = 0 ∧ after.codes.count "FFV-STRUCT-004" = 0 ∧
      after.codes.count "FFV-STRUCT-003" ≤ before.codes.count "FFV-STRUCT-003" := by
  obtain ⟨before, run⟩ : ∃ before, Validator.reportOn {} headless = .ok before :=
    Validation.reportOn_ok_iff.2 nofun
  have identities : (Validator.reportOn {} headless).toOption.map (fun report =>
      (report.codes.count "FFV-NODE-001", report.codes.count "FFV-NODE-002")) = some (0, 0) := by
    decide +kernel
  rw [run] at identities
  obtain ⟨named, once⟩ := Prod.mk.inj (Option.some.inj identities)
  have acyclic : Graph.Acyclic (edgesAmong headless.nodes headless.edges) := by
    have none :
        Graph.backEdge? ["a", "b", "c"] (edgesAmong headless.nodes headless.edges) = none := by
      decide +kernel
    exact (Graph.backEdge?_eq_none_iff (by decide +kernel)).1 none
  obtain ⟨input, output, after, encloses, run', -, -, connected⟩ :=
    complete_connects_iff run named once (by decide) (by decide) acyclic
  have nodes : (complete headless).workflow.nodes = newInput "auto_input" "用户输入" ::
      headless.nodes ++ [newOutput "auto_output" "最终输出" "\x7b\x7ba.response\x7d\x7d"] := by
    decide +kernel
  rw [encloses.nodes] at nodes
  obtain ⟨rfl, rest⟩ := List.cons.inj nodes
  obtain rfl := List.singleton_inj.1 (List.append_cancel_left rest)
  exact ⟨before, after, run, run', connected.2 (by decide +kernel)⟩

/-- A node with an edge to the id that the input will have. -/
def foreseen : Workflow :=
  { nodes := [{ id := "a", type := "tool", data := [("label", .str "A"), ("toolType", .str "t")] }]
    edges := [{ source := "a", target := "auto_input", givenId := some "e1" }] }

/-- The edge now leads from the node into the input, so that neither is left for the output. -/
theorem cycle_of_foreseen :
    foreseen.nodes.any (·.isKind .input) = false ∧ foreseen.nodes.any (·.isKind .output) = false ∧
      edgesAmong foreseen.nodes foreseen.edges = [] ∧
      (Validator.reportOn {} foreseen).toOption.map Report.codes = some ["FFV-STRUCT-002"] ∧
      (Validator.reportOn {} (complete foreseen).workflow).toOption.map Report.codes =
        some ["FFV-STRUCT-001", "FFV-STRUCT-004", "FFV-STRUCT-004", "FFV-STRUCT-004"] := by
  decide +kernel

end WorkflowRepair.Repair
