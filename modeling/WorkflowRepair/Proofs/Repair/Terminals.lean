import WorkflowRepair.Proofs.Repair.FreshName
import WorkflowRepair.Repair.Terminals

/-!
The ends that are added to a workflow. There is one of each kind afterwards, the nodes that were
there stay as they are, and a workflow with both ends is left alone.
-/

namespace WorkflowRepair.Repair

theorem kind_newInput (id label : String) : (newInput id label).kind = some .input := by
  have named : NodeKind.ofType? NodeKind.input.name = some .input := by decide
  exact named

theorem kind_newOutput (id label shown : String) :
    (newOutput id label shown).kind = some .output := by
  have named : NodeKind.ofType? NodeKind.output.name = some .output := by decide
  exact named

theorem exists_of_inputFor? {w : Workflow} {n : Node} (h : inputFor? w = some n) :
    ∃ id used, n = newInput id (freshName "用户输入" "" used) := by
  unfold inputFor? at h
  split at h
  · cases h
  · exact ⟨_, _, (Option.some.inj h).symm⟩

theorem exists_of_outputFor? {w : Workflow} {added : Option Node} {n : Node}
    (h : outputFor? w added = some n) :
    ∃ id used shown, n = newOutput id (freshName "最终输出" "" used) shown := by
  unfold outputFor? at h
  split at h
  · cases h
  · exact ⟨_, _, _, (Option.some.inj h).symm⟩

@[simp] theorem nodes_connectInput (w : Workflow) (input : Option Node) :
    (connectInput w input).nodes = w.nodes := by cases input <;> rfl

@[simp] theorem nodes_connectOutput (w : Workflow) (output : Option Node) :
    (connectOutput w output).nodes = w.nodes := by cases output <;> rfl

theorem nodes_complete (w : Workflow) :
    (complete w).workflow.nodes =
      (inputFor? w).toList ++ w.nodes ++ (outputFor? w (inputFor? w)).toList := by
  simp only [complete, nodes_connectOutput, nodes_connectInput]

/-- A node afterwards was there before, or is one of the two that may be added. -/
theorem mem_complete {w : Workflow} {n : Node} (h : n ∈ (complete w).workflow.nodes) :
    n ∈ w.nodes ∨ inputFor? w = some n ∨ outputFor? w (inputFor? w) = some n := by
  rw [nodes_complete] at h
  rcases List.mem_append.1 h with mem | added
  · rcases List.mem_append.1 mem with added | mem
    · exact .inr (.inl (Option.mem_toList.1 added))
    · exact .inl mem
  · exact .inr (.inr (Option.mem_toList.1 added))

theorem inputFor?_eq_none {w : Workflow} (h : w.nodes.any (·.isKind .input) = true) :
    inputFor? w = none := if_pos h

theorem outputFor?_eq_none {w : Workflow} (added : Option Node)
    (h : w.nodes.any (·.isKind .output) = true) : outputFor? w added = none := if_pos h

/-- A workflow with an input and an output is left alone. -/
theorem complete_eq_self {w : Workflow} (input : w.nodes.any (·.isKind .input) = true)
    (output : w.nodes.any (·.isKind .output) = true) : (complete w).workflow = w := by
  simp only [complete, inputFor?_eq_none input, outputFor?_eq_none _ output, connectInput,
    connectOutput, Option.toList_none, List.nil_append, List.append_nil]

/-- There is an input and an output afterwards. -/
theorem any_isKind_complete (w : Workflow) :
    (complete w).workflow.nodes.any (·.isKind .input) = true ∧
      (complete w).workflow.nodes.any (·.isKind .output) = true := by
  simp only [nodes_complete, List.any_append, Bool.or_eq_true]
  constructor
  · by_cases given : w.nodes.any (·.isKind .input) = true
    · exact .inl (.inr given)
    · have added : inputFor? w = some (newInput _ _) := if_neg given
      left
      left
      simp [added, Node.isKind, kind_newInput]
  · by_cases given : w.nodes.any (·.isKind .output) = true
    · exact .inl (.inr given)
    · have added : outputFor? w (inputFor? w) = some (newOutput _ _ _) := if_neg given
      right
      simp [added, Node.isKind, kind_newOutput]

end WorkflowRepair.Repair
