import WorkflowRepair.Proofs.Repair.Terminals
import WorkflowRepair.Proofs.Template.Reading
import WorkflowRepair.Proofs.Validation.Nodes

/-!
The nodes that are added for missing ends. Each has an id in order that no node had, so where
nothing was wrong with the identities of nodes nothing is wrong with them afterwards.
-/

namespace WorkflowRepair.Repair

open Validation (Identified identityFindings)

variable {w : Workflow} {n : Node}

/-- A fresh id is in order and not in use. -/
theorem freshName_id {base : String} (used : List String) (given : base ≠ "")
    (solid : base.toList.all (!Text.isBlank ·) = true) :
    freshName base "_" used ≠ "" ∧
      (∀ c ∈ (freshName base "_" used).toList, Text.isBlank c = false) ∧
      freshName base "_" used ∉ used := by
  refine ⟨fun empty => ?_, fun c mem => ?_, (firstFree_freshName base "_" used).not_taken⟩
  · have start := prefix_freshName base "_" used
    rw [empty] at start
    exact given (String.toList_inj.1 (List.prefix_nil.1 start))
  · have digits : ∀ c : Char, c.isDigit = true → (!Text.isBlank c) = true := fun c digit => by
      rw [(OrdinaryLabel.isSolid_iff.1 (isSolid_of_isDigit digit)).1]
      rfl
    have line : "_".toList.all (!Text.isBlank ·) = true := by decide
    simpa using List.all_eq_true.1 (all_freshName used digits solid line) c mem

theorem mem_nodeIds_of_ne {id : String} (given : id ≠ "") (mem : id ∈ w.nodes.map Node.id) :
    id ∈ w.nodeIds :=
  List.mem_filter.2 ⟨mem, by simpa using given⟩

/-- A new input is one, with an id of its own, and there was none. -/
theorem new_of_inputFor? (h : inputFor? w = some n) :
    w.nodes.any (·.isKind .input) = false ∧ n.isKind .input = true ∧ Identified n ∧
      n.id ∉ w.nodes.map Node.id := by
  unfold inputFor? at h
  split at h
  · cases h
  · next none =>
    obtain ⟨filled, solid, free⟩ := freshName_id w.nodeIds
      (by decide : "auto_input" ≠ "") (by decide)
    rw [← Option.some.inj h]
    refine ⟨Bool.eq_false_iff.2 none, ?_, ⟨filled, (by decide : NodeKind.input.name ≠ ""), solid⟩,
      mt (mem_nodeIds_of_ne filled) free⟩
    rw [Node.isKind, kind_newInput]
    rfl

/-- A new output is one, with an id of its own also beside a new input, and there was none. -/
theorem new_of_outputFor? {added : Option Node} (h : outputFor? w added = some n) :
    w.nodes.any (·.isKind .output) = false ∧ n.isKind .output = true ∧ Identified n ∧
      n.id ∉ w.nodes.map Node.id ∧ n.id ∉ added.toList.map Node.id := by
  unfold outputFor? at h
  split at h
  · cases h
  · next none =>
    obtain ⟨filled, solid, free⟩ := freshName_id (w.nodeIds ++ added.toList.map Node.id)
      (by decide : "auto_output" ≠ "") (by decide)
    rw [List.mem_append, not_or] at free
    rw [← Option.some.inj h]
    refine ⟨Bool.eq_false_iff.2 none, ?_, ⟨filled, (by decide : NodeKind.output.name ≠ ""), solid⟩,
      mt (mem_nodeIds_of_ne filled) free.1, free.2⟩
    rw [Node.isKind, kind_newOutput]
    rfl

/-- Nodes in order with ids of their own around nodes in order. -/
theorem identities_around {before nodes after : List Node} (named : identityFindings [] nodes = [])
    (each : ∀ n ∈ before ++ after, Identified n) (once : ((before ++ after).map Node.id).Nodup)
    (new : ∀ n ∈ before ++ after, n.id ∉ nodes.map Node.id) :
    identityFindings [] (before ++ nodes ++ after) = [] := by
  have regrouped : (before ++ nodes ++ after).Perm (before ++ after ++ nodes) := by
    rw [List.append_assoc, List.append_assoc]
    exact List.perm_append_comm.append_left before
  rw [Validation.identityFindings_eq_nil_iff, Validation.fresh_nil_iff] at named ⊢
  constructor
  · intro n mem
    rcases List.mem_append.1 (regrouped.mem_iff.1 mem) with added | old
    · exact each n added
    · exact named.1 n old
  · rw [(regrouped.map Node.id).nodup_iff, List.map_append, List.nodup_append]
    refine ⟨once, named.2, ?_⟩
    rintro id added id' old rfl
    obtain ⟨n, mem, rfl⟩ := List.mem_map.1 added
    exact new n mem old

theorem identities_complete (named : identityFindings [] w.nodes = []) :
    identityFindings [] (complete w).workflow.nodes = [] := by
  rw [nodes_complete]
  refine identities_around named (fun n mem => ?_) ?_ fun n mem => ?_
  · rcases List.mem_append.1 mem with input | output
    · exact (new_of_inputFor? (Option.mem_toList.1 input)).2.2.1
    · exact (new_of_outputFor? (Option.mem_toList.1 output)).2.2.1
  · rw [List.map_append, List.nodup_append]
    refine ⟨?_, ?_, ?_⟩
    · cases inputFor? w <;> simp
    · cases outputFor? w (inputFor? w) <;> simp
    · rintro id input id' output rfl
      obtain ⟨n, mem, rfl⟩ := List.mem_map.1 output
      exact (new_of_outputFor? (Option.mem_toList.1 mem)).2.2.2.2 input
  · rcases List.mem_append.1 mem with input | output
    · exact (new_of_inputFor? (Option.mem_toList.1 input)).2.2.2
    · exact (new_of_outputFor? (Option.mem_toList.1 output)).2.2.2.1

end WorkflowRepair.Repair
