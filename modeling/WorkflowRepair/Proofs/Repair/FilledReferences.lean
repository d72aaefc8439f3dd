import WorkflowRepair.Proofs.Json.Keys
import WorkflowRepair.Proofs.Repair.Unresolved
import WorkflowRepair.Proofs.Template.Name
import WorkflowRepair.Proofs.Validation.NameCounts
import WorkflowRepair.Proofs.Workflow.RoundTrip

/-!
References that are filled in for user input. They are those of the only input node, by its name.
The labels of nodes stay, so names are judged as before, and in the data of a node there are no more
references that are not resolved than there were and than the text that is filled in brings.
-/

namespace WorkflowRepair

open Repair (referenceTo)
open Validation (normals resolves unresolvedIn unresolvedOf mappings)

/-! ### Names of nodes whose data changes -/

namespace Validation

theorem normals_face (nodes : List Node) : normals (nodes.map Node.face) = normals nodes := by
  simp only [normals, List.filter_map, List.map_map, Function.comp_def, Node.face_label,
    Node.face_isLabelled]

theorem countP_isLabelled_face (nodes : List Node) :
    (nodes.map Node.face).countP (! ·.isLabelled) = nodes.countP (! ·.isLabelled) := by
  simp only [List.countP_map, Function.comp_def, Node.face_isLabelled]

end Validation

/-! ### Members that are set -/

namespace Members

theorem set_cons (m : String × Json) (members : Members) (key : String) (value : Json) :
    set (m :: members) key value =
      if m.1 = key then (key, value) :: members.map fun m => if m.1 = key then (key, value) else m
      else m :: set members key value := by
  by_cases same : m.1 = key
  · simp [set, has, same]
  · by_cases known : has members key = true <;> simp_all [set, has]

/-- What is set takes the place of the value that was there. -/
theorem sum_set (weight : String × Json → Nat) {members : Members} (key : String) (value : Json)
    (keyed : members.Keyed) (nothing : weight (key, .null) = 0) :
    ((set members key value).map weight).sum + weight (key, getD members key) =
      (members.map weight).sum + weight (key, value) := by
  induction members with
  | nil => exact (Nat.add_comm _ _).trans (congrArg₂ _ nothing (by simp [set, has]))
  | cons m rest ih =>
    obtain ⟨new, later⟩ := List.nodup_cons.1 keyed
    rw [set_cons, getD_cons]
    split
    · next same =>
      have others : ∀ m' ∈ rest, ¬ m'.1 = key := fun m' mem again =>
        new (List.mem_map.2 ⟨m', mem, again.trans same.symm⟩)
      have kept : (rest.map fun m => if m.1 = key then (key, value) else m) = rest :=
        (List.map_congr_left fun m' mem => if_neg (others m' mem)).trans (List.map_id _)
      have here : weight (key, m.2) = weight m := by rw [← same]
      rw [kept, List.map_cons, List.map_cons, List.sum_cons, List.sum_cons, here]
      omega
    · rw [List.map_cons, List.map_cons, List.sum_cons, List.sum_cons, Nat.add_assoc, ih later,
        Nat.add_assoc]

end Members

namespace Repair

variable {nodes : List Node} {w : Workflow}

/-- No key is given twice in the data of a node and in its input mappings. -/
def KeyedData (data : Members) : Prop := data.Keyed ∧ Members.Keyed (mappings data)

instance (data : Members) : Decidable (KeyedData data) := inferInstanceAs (Decidable (_ ∧ _))

/-- How many references below a value are not resolved. -/
def unresolvedBelow (nodes : List Node) (j : Json) : Nat := (j.texts.map (unresolvedIn nodes)).sum

theorem sum_unresolvedIn (members : Members) :
    ((members.flatMap fun m => m.2.texts).map (unresolvedIn nodes)).sum =
      (members.map fun m => unresolvedBelow nodes m.2).sum := by
  induction members with
  | nil => rfl
  | cons m rest ih =>
    rw [List.flatMap_cons, List.map_append, List.sum_append, ih, List.map_cons, List.sum_cons,
      unresolvedBelow]

theorem unresolvedBelow_obj (members : Members) : unresolvedBelow nodes (.obj members) =
    (members.map fun m => unresolvedBelow nodes m.2).sum := by
  rw [unresolvedBelow, Json.texts, Json.textsOfMembers_eq_flatMap, sum_unresolvedIn]

theorem unresolvedOf_eq (data : Members) : unresolvedOf nodes data =
    (data.map fun m => if m.1 ≠ "label" then unresolvedBelow nodes m.2 else 0).sum := by
  have split := Validation.sum_map_ite (fun m : String × Json => decide (m.1 ≠ "label"))
    (fun m => unresolvedBelow nodes m.2) data
  simp only [decide_eq_true_eq] at split
  rw [split, unresolvedOf, Members.texts, sum_unresolvedIn]

/-- Input mappings that are no object hold nothing. -/
theorem unresolvedBelow_mappings (nodes : List Node) (data : Members) :
    unresolvedBelow nodes (.obj (mappings data)) ≤
      unresolvedBelow nodes (Members.getD data "inputMappings") := by
  rw [mappings]
  cases Members.getD data "inputMappings" with
  | obj members => exact Nat.le_refl _
  | null | bool _ | num _ | str _ | arr _ => exact Nat.zero_le _

/-- The data with a user input holds no more references that are not resolved than the data and the
text do. -/
theorem unresolvedOf_withUserInput {data : Members} (keyed : KeyedData data) (text : String) :
    unresolvedOf nodes (data.withUserInput text) ≤
      unresolvedOf nodes data + unresolvedIn nodes text := by
  have single : unresolvedBelow nodes (.str text) = unresolvedIn nodes text := Nat.add_zero _
  have inner := Members.sum_set (fun m => unresolvedBelow nodes m.2) "user_input" (.str text)
    keyed.2 rfl
  have outer := Members.sum_set (fun m => if m.1 ≠ "label" then unresolvedBelow nodes m.2 else 0)
    "inputMappings" (.obj (Members.set (mappings data) "user_input" (.str text))) keyed.1 rfl
  have before := unresolvedBelow_mappings nodes data
  rw [← unresolvedOf_eq, ← unresolvedOf_eq] at outer
  simp only [← unresolvedBelow_obj] at inner
  simp only [if_pos (by decide : "inputMappings" ≠ "label")] at outer
  rw [Members.withUserInput]
  omega

/-! ### The nodes that are filled in -/

/-- Whether there is a user input to fill in and the node lacks one. -/
def isFilledIn (text? : Option String) (n : Node) : Bool :=
  (text?.bind fun text => filledData? text n).isSome

theorem fillUserInput_count (w : Workflow) :
    (fillUserInput w).2 = w.nodes.countP (isFilledIn (userInput? w.nodes)) := by
  have inputs : w.nodesOfKind .input = w.nodes.filter (·.isKind .input) := rfl
  have none : w.nodes.countP (isFilledIn none) = 0 :=
    List.countP_eq_zero.2 fun _ _ h => Bool.false_ne_true h
  rw [fillUserInput, userInput?, inputs]
  generalize (w.nodes.filter (·.isKind .input)).filter (fun n => n.id ≠ "") = found
  rcases found with - | ⟨input, - | ⟨other, rest⟩⟩
  · exact none.symm
  · exact List.countP_congr fun n _ => by rw [isFilledIn, Option.bind_some]
  · exact none.symm

theorem unresolvedOf_fillNode {n : Node} (keyed : KeyedData n.data) (text? : Option String) :
    unresolvedOf nodes (fillNode text? n).data ≤ unresolvedOf nodes n.data +
      if isFilledIn text? n then unresolvedIn nodes (text?.getD "") else 0 := by
  unfold fillNode isFilledIn
  cases found : text?.bind fun text => filledData? text n with
  | none => exact Nat.le_refl _
  | some data =>
    obtain ⟨text, rfl, filled⟩ := Option.bind_eq_some_iff.1 found
    rw [filledData?_of_lacks (lacks_of_filledData? filled)] at filled
    cases filled
    exact unresolvedOf_withUserInput keyed text

theorem sum_fillNode {given : List Node} (keyed : ∀ n ∈ given, KeyedData n.data)
    (text? : Option String) :
    ((given.map (fillNode text?)).map fun n => unresolvedOf nodes n.data).sum ≤
      (given.map fun n => unresolvedOf nodes n.data).sum +
        given.countP (isFilledIn text?) * unresolvedIn nodes (text?.getD "") := by
  have counted := Validation.sum_map_ite (isFilledIn text?)
    (fun _ => unresolvedIn nodes (text?.getD "")) given
  rw [List.map_const', List.sum_replicate_nat, ← List.countP_eq_length_filter] at counted
  rw [← counted, ← List.sum_map_add, List.map_map]
  exact List.sum_le_sum fun n mem => unresolvedOf_fillNode (keyed n mem) text?

/-- What is filled in leaves labels and what names refer to as they are, and brings no references
that are not resolved but those of its text. -/
theorem names_fillUserInput (keyed : ∀ n ∈ w.nodes, KeyedData n.data) :
    normals (fillUserInput w).1.nodes = normals w.nodes ∧
      (fillUserInput w).1.nodes.countP (! ·.isLabelled) = w.nodes.countP (! ·.isLabelled) ∧
      ((fillUserInput w).1.nodes.map fun n =>
          unresolvedOf (fillUserInput w).1.nodes n.data).sum ≤
        (w.nodes.map fun n => unresolvedOf w.nodes n.data).sum +
          (fillUserInput w).2 * unresolvedIn w.nodes ((userInput? w.nodes).getD "") := by
  have same := (kept_fillUserInput w).face
  have resolved : resolves (fillUserInput w).1.nodes = resolves w.nodes := by
    rw [← Validation.resolves_face, same, Validation.resolves_face]
  refine ⟨?_, ?_, ?_⟩
  · rw [← Validation.normals_face, same, Validation.normals_face]
  · rw [← Validation.countP_isLabelled_face, same, Validation.countP_isLabelled_face]
  · have known : ∀ name, resolves w.nodes name = true →
        resolves (fillUserInput w).1.nodes name = true := fun name => by rw [resolved]; exact id
    refine (List.sum_le_sum fun n _ => Validation.unresolvedOf_le known n.data).trans ?_
    rw [fillUserInput_count, fillUserInput_eq]
    exact sum_fillNode keyed _

end Repair

end WorkflowRepair
