import Mathlib.Data.List.Forall2
import WorkflowRepair.Proofs.Repair.Guarantee
import WorkflowRepair.Proofs.Repair.References

/-!
References by the id of a node. The id is the first way in which a name is matched, so no other node
is put in for it, as long as the node has a label to be called by. A node without one is passed
over, and the name may then come to the label of another node.
-/

namespace WorkflowRepair

namespace Repair

variable {policy : FuzzyPolicy} {nodes : List Node} {reference : Reference} {name : String}
  {n : Node}

/-- The first node with an id is the one that the id stands for. -/
theorem nodeNamed?_of_first (given : name ≠ "")
    (first : (nodes.find? fun n => n.id == name) = some n) : nodeNamed? nodes name = some n := by
  rw [nodeNamed?, distinctNodes, find?_distinctAfter given List.not_mem_nil, first]

theorem matchName?_of_id (given : name ≠ "") (unknown : name ∉ labels nodes)
    (first : (nodes.find? fun n => n.id == name) = some n) (labelled : n.isLabelled = true) :
    matchName? policy nodes name = some (.nodeId n.label) := by
  have byId : labelById? nodes name = some n.label := by
    rw [labelById?, nodeNamed?_of_first given first, Option.filter_some, if_pos labelled]
    rfl
  have unsettled : ¬ (name = "" ∨ (labels nodes).contains name = true) := by
    rw [List.contains_iff_mem]
    exact not_or.2 ⟨given, unknown⟩
  rw [matchName?, if_neg unsettled, byId]

/-- What is put in for a reference by the id of a labelled node. -/
theorem healed?_of_id {w : Workflow} (first : w.node? reference.name = some n)
    (labelled : n.isLabelled = true) :
    healed? policy w.nodes reference =
      if reference.name = "" ∨ reference.name ∈ labels w.nodes then none
      else some (reference.renamed n.label) := by
  split
  · next settled =>
    rw [healed?, matchName?_eq_none_iff.2 settled]
    rfl
  · next unsettled =>
    obtain ⟨given, unknown⟩ := not_or.1 unsettled
    rw [healed?, matchName?_of_id given unknown first labelled]
    rfl

/-! ### Texts -/

/-- The characters in the place of a piece of a text. What is no reference stays; a reference stays
or gets the label of some node before its path; and one by the id of a labelled node stays where
that id is also a label, and otherwise gets the label of that very node. -/
structure KeepsNode (w : Workflow) (p : Template.Piece) (written : List Char) : Prop where
  plain : p.reference? = none → written = p.chars
  someLabel : ∀ r, p.reference? = some r → written = p.chars ∨ ∃ m ∈ w.nodes,
    m.isLabelled = true ∧ written = (Template.braced (r.renamed m.label)).toList
  byId : ∀ r n, p.reference? = some r → w.node? r.name = some n → n.isLabelled = true →
    written = if r.name = "" ∨ r.name ∈ labels w.nodes then p.chars
      else (Template.braced (r.renamed n.label)).toList

theorem keepsNode_replaced (policy : FuzzyPolicy) (w : Workflow) (p : Template.Piece) :
    KeepsNode w p (p.replaced (healed? policy w.nodes)) := by
  have written {r : Reference} (read : p.reference? = some r) :
      p.replaced (healed? policy w.nodes) = (healed? policy w.nodes r).elim p.chars
        fun expression => (Template.braced expression).toList := by
    rw [Template.Piece.replaced, read, Option.bind_some]
    cases healed? policy w.nodes r with
    | none => rfl
    | some expression => exact String.toList_ofList.symm
  constructor
  · intro read
    exact Template.Piece.replaced_of_none (by rw [read]; rfl)
  · intro r read
    rw [written read]
    cases new : healed? policy w.nodes r with
    | none => exact .inl rfl
    | some expression =>
      obtain ⟨label, known, path, rfl, rfl⟩ := putsLabels_healed? policy w.nodes r expression new
      obtain ⟨m, mem, labelled, rfl⟩ := mem_labels.1 known
      exact .inr ⟨m, mem, labelled, rfl⟩
  · intro r n read first labelled
    rw [written read, healed?_of_id first labelled]
    by_cases settled : r.name = "" ∨ r.name ∈ labels w.nodes
    · rw [if_pos settled, if_pos settled, Option.elim_none]
    · rw [if_neg settled, if_neg settled, Option.elim_some]

/-- The repair of references writes all texts besides the labels anew, piece by piece, and puts in
no other node for the id of a labelled one. -/
theorem references_by_id_keep_node (policy : FuzzyPolicy) (w : Workflow) :
    ∃ f : String → String,
      (applyReferences policy w).workflow =
        { w with nodes := w.nodes.map fun m => { m with data := Members.mapTexts f m.data } } ∧
      ∀ text, ∃ parts, f text = String.ofList parts.flatten ∧
        List.Forall₂ (KeepsNode w) (Template.pieces text.toList) parts := by
  refine ⟨Template.replace (healed? policy w.nodes), rfl, fun text =>
    ⟨(Template.pieces text.toList).map (Template.Piece.replaced (healed? policy w.nodes)), ?_, ?_⟩⟩
  · rw [Template.replace, List.flatMap_def]
  · rw [List.forall₂_map_right_iff, List.forall₂_same]
    exact fun p _ => keepsNode_replaced policy w p

/-- An input without a label, and a model whose label is almost the id of the input. -/
def misnamed : Workflow :=
  { nodes := [
      { id := "modl", type := "input" },
      { id := "m", type := "llm", data := [
          ("label", .str "model"), ("systemPrompt", .str "\x7b\x7bmodl.x\x7d\x7d")] }] }

/-- The reference by the id of the input is led to the model, as its label is the nearest. -/
theorem id_of_unlabelled_node_redirected :
    misnamed.node? "modl" = some { id := "modl", type := "input" } ∧
      Template.references "\x7b\x7bmodl.x\x7d\x7d" = [⟨"modl.x", "modl", ".x"⟩] ∧
      (applyReferences {} misnamed).workflow.nodes.map
        (fun n => (n.label, Members.getD n.data "systemPrompt")) =
          [("", .null), ("model", .str "\x7b\x7bmodel.x\x7d\x7d")] := by
  decide +kernel

end Repair

end WorkflowRepair
