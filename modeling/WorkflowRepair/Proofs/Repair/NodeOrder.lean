import WorkflowRepair.Proofs.Listed
import WorkflowRepair.Proofs.Repair.References

/-!
The order in which nodes are listed makes no difference to the repair of references, where no id
repeats and different labels have different normal forms. Each way to match a name comes to a label
only when no other label would do, and what is reported instead is not put in.
-/

namespace WorkflowRepair.Repair

open Template (normalLabel)

variable {policy : FuzzyPolicy} {nodes nodes' : List Node} {name : String}

/-- No two different labels have one normal form. -/
def LabelsApart (nodes : List Node) : Prop :=
  ∀ label ∈ labels nodes, ∀ other ∈ labels nodes, normalLabel label = normalLabel other →
    label = other

instance (nodes : List Node) : Decidable (LabelsApart nodes) :=
  inferInstanceAs (Decidable (∀ label ∈ labels nodes, ∀ other ∈ labels nodes,
    normalLabel label = normalLabel other → label = other))

/-! ### Nodes with an id -/

theorem distinctAfter_eq_filter {seen : List String}
    (distinct : ((nodes.map Node.id).filter (· ≠ "")).Nodup)
    (new : ∀ n ∈ nodes, n.id ∉ seen) :
    distinctAfter seen nodes = nodes.filter (·.id ≠ "") := by
  induction nodes generalizing seen with
  | nil => rfl
  | cons node rest ih =>
    obtain ⟨here, later⟩ := List.forall_mem_cons.1 new
    rw [List.map_cons, List.filter_cons] at distinct
    unfold distinctAfter
    by_cases empty : node.id = ""
    · rw [if_pos (.inl empty), List.filter_cons_of_neg (by simp [empty])]
      exact ih (by simpa [empty] using distinct) later
    · have first : ¬ (node.id = "" ∨ seen.contains node.id = true) := by
        rw [List.contains_iff_mem]
        exact not_or.2 ⟨empty, here⟩
      rw [if_pos (by simpa using empty), List.nodup_cons] at distinct
      rw [if_neg first, List.filter_cons_of_pos (by simpa using empty)]
      congr 1
      refine ih distinct.2 ?_
      intro n mem inside
      rcases List.mem_cons.1 inside with same | earlier
      · refine distinct.1 (List.mem_filter.2 ⟨?_, by simpa using empty⟩)
        rw [← same]
        exact List.mem_map_of_mem mem
      · exact later n mem earlier

theorem distinctNodes_eq_filter (distinct : ((nodes.map Node.id).filter (· ≠ "")).Nodup) :
    distinctNodes nodes = nodes.filter (·.id ≠ "") :=
  distinctAfter_eq_filter distinct fun _ _ => List.not_mem_nil

section Listed

variable (listed : nodes'.Perm nodes)

include listed

theorem sameButCase?_listed : sameButCase? nodes' name = sameButCase? nodes name := by
  unfold sameButCase?
  have perm := listed.filter fun n => Text.lower n.id == Text.lower name
  rcases eq_or_several perm with same | ⟨a, b, rest, a', b', rest', several, several'⟩
  · rw [same]
  · rw [several, several']

section Distinct

variable (distinct : ((nodes.map Node.id).filter (· ≠ "")).Nodup)

include distinct

theorem distinctNodes_listed : (distinctNodes nodes').Perm (distinctNodes nodes) := by
  have distinct' : ((nodes'.map Node.id).filter (· ≠ "")).Nodup :=
    ((listed.map Node.id).filter _).nodup_iff.2 distinct
  rw [distinctNodes_eq_filter distinct, distinctNodes_eq_filter distinct']
  exact listed.filter _

theorem nodeNamed?_listed : nodeNamed? nodes' name = nodeNamed? nodes name := by
  have perm := distinctNodes_listed listed distinct
  have found : (distinctNodes nodes').find? (fun n => n.id == name) =
      (distinctNodes nodes).find? fun n => n.id == name := by
    refine find?_of_perm perm ?_
    intro a mem b mem' named named'
    rw [beq_iff_eq] at named named'
    exact eq_of_id_eq mem mem' (named.trans named'.symm)
  simp only [nodeNamed?, found, sameButCase?_listed perm]

theorem labelById?_listed : labelById? nodes' name = labelById? nodes name := by
  rw [labelById?, labelById?, nodeNamed?_listed listed distinct]

end Distinct

/-! ### Labels -/

theorem labels_listed : (labels nodes').Perm (labels nodes) :=
  eraseDups_perm ((listed.filter _).map Node.label)

theorem labelsOfKind_listed (kind : NodeKind) :
    (labelsOfKind nodes' kind).Perm (labelsOfKind nodes kind) :=
  (listed.filter _).map Node.label

theorem labelByForm?_listed (apart : LabelsApart nodes) :
    labelByForm? nodes' name = labelByForm? nodes name := by
  refine find?_of_perm (labels_listed listed) ?_
  intro label mem other mem' form form'
  rw [beq_iff_eq] at form form'
  exact apart label mem other mem' (form.trans form'.symm)

/-- Of several labels of a kind none is taken, so that their order is not seen. -/
theorem matchByKind?_listed (apart : LabelsApart nodes) :
    (matchByKind? nodes' name).map NameMatch.certain? =
      (matchByKind? nodes name).map NameMatch.certain? := by
  unfold matchByKind?
  cases NodeKind.ofAlias? name with
  | none => rfl
  | some kind =>
    simp only [labelByForm?_listed listed apart]
    rcases eq_or_several (labelsOfKind_listed listed kind) with
      same | ⟨a, b, rest, a', b', rest', several, several'⟩
    · rw [same]
    · rw [several, several']
      cases labelByForm? nodes name <;> rfl

theorem scores_listed (target : String) : (scores nodes' target).Perm (scores nodes target) :=
  (labels_listed listed).map _

theorem nearestLabel_listed :
    (nearestLabel policy nodes' name).certain? = (nearestLabel policy nodes name).certain? := by
  have perm := scores_listed listed (normalLabel name)
  unfold nearestLabel
  simp only [min?_of_perm (perm.map Prod.fst)]
  cases ((scores nodes (normalLabel name)).map Prod.fst).min? with
  | none => rfl
  | some best =>
    rcases eq_or_several ((perm.filter fun s => s.1 == best).map Prod.snd) with
      same | ⟨a, b, rest, a', b', rest', several, several'⟩
    · simp only [same]
    · simp only [several, several', NameMatch.certain?]

/-! ### Matches -/

omit listed in
/-- The label put in for a name, way by way. -/
theorem certain_matchName? (policy : FuzzyPolicy) (nodes : List Node) (name : String) :
    (matchName? policy nodes name).bind NameMatch.certain? =
      if name = "" ∨ (labels nodes).contains name then none
      else (labelById? nodes name).or
        (((matchByKind? nodes name).map NameMatch.certain?).getD
          ((labelByForm? nodes name).or (nearestLabel policy nodes name).certain?)) := by
  unfold matchName?
  split
  · rfl
  · cases labelById? nodes name with
    | some label => rfl
    | none =>
      cases matchByKind? nodes name with
      | some found => rfl
      | none => cases labelByForm? nodes name <;> rfl

theorem healed?_listed (distinct : ((nodes.map Node.id).filter (· ≠ "")).Nodup)
    (apart : LabelsApart nodes) : healed? policy nodes' = healed? policy nodes := by
  funext reference
  have known : (labels nodes').contains reference.name = (labels nodes).contains reference.name :=
    (labels_listed listed).contains_eq
  rw [healed?, healed?, certain_matchName?, certain_matchName?, known,
    labelById?_listed listed distinct, matchByKind?_listed listed apart,
    labelByForm?_listed listed apart, nearestLabel_listed listed]

end Listed

/-- Where no id repeats and different labels have different normal forms, the repair of references
makes the same of a node wherever the nodes are listed. -/
theorem applyReferences_listed (policy : FuzzyPolicy) {w w' : Workflow}
    (listed : w'.nodes.Perm w.nodes) (distinct : w.nodeIds.Nodup) (apart : LabelsApart w.nodes)
    {i j : Nat} (same : w'.nodes[i]? = w.nodes[j]?) :
    (applyReferences policy w').workflow.nodes[i]? =
      (applyReferences policy w).workflow.nodes[j]? := by
  have names : healed? policy w'.nodes = healed? policy w.nodes :=
    healed?_listed listed distinct apart
  simp only [applyReferences, healReferences, replaceReferences, List.getElem?_map, names, same]

/-- Ids that differ in case, two models, and names that match in every way. -/
def crowd : Workflow :=
  { nodes := [
      { id := "n", type := "input", data := [("label", .str "Question")] },
      { id := "N", type := "llm", data := [
          ("label", .str "Draft"),
          ("prompt", .str "\x7b\x7bn\x7d\x7d \x7b\x7bSTART.q\x7d\x7d")] },
      { id := "m", type := "llm", data := [
          ("label", .str "Final"),
          ("prompt", .str ("\x7b\x7bllm.a\x7d\x7d \x7b\x7bDrft\x7d\x7d \x7b\x7bfinal \x7d\x7d "
            ++ "\x7b\x7bM\x7d\x7d \x7b\x7bN.b\x7d\x7d"))] }] }

/-- The last node comes to the same when it is listed first. -/
theorem applyReferences_listed_crowd :
    crowd.nodes.reverse.Perm crowd.nodes ∧ crowd.nodeIds.Nodup ∧ LabelsApart crowd.nodes ∧
      crowd.nodes.reverse[0]? = crowd.nodes[2]? ∧
      (applyReferences {} { crowd with nodes := crowd.nodes.reverse }).workflow.nodes[0]? =
        (applyReferences {} crowd).workflow.nodes[2]? ∧
      ((applyReferences {} crowd).workflow.nodes[2]?.map fun n => Members.getD n.data "prompt") =
        some (.str ("\x7b\x7bllm.a\x7d\x7d \x7b\x7bDraft\x7d\x7d \x7b\x7bFinal\x7d\x7d "
          ++ "\x7b\x7bFinal\x7d\x7d \x7b\x7bDraft.b\x7d\x7d")) := by
  have listed : crowd.nodes.reverse.Perm crowd.nodes := List.reverse_perm _
  have distinct : crowd.nodeIds.Nodup := by decide +kernel
  have apart : LabelsApart crowd.nodes := by decide +kernel
  have same : crowd.nodes.reverse[0]? = crowd.nodes[2]? := rfl
  refine ⟨listed, distinct, apart, same, ?_, ?_⟩
  · exact applyReferences_listed {} listed distinct apart same
  · decide +kernel

end WorkflowRepair.Repair
