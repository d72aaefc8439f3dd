import WorkflowRepair.Proofs.Repair.Dropped

/-!
The edges that stay after mending, in order: there is one for each link that is kept, and it is
mended by that link. So the graph afterwards is the one that the detection works with, arc by arc.
-/

namespace WorkflowRepair.Repair

variable {w : Workflow} {l : Link}

/-- What mending makes of the edge of a link that is kept. -/
def mendedEdge (w : Workflow) (l : Link) : Edge := (flawsAt w l.index).foldl amend l.edge

theorem mendEdge?_of_kept (kept : l ∈ keptLinks w) :
    mendEdge? (edgeFlaws w) (l.edge, l.index) = some (mendedEdge w l) := by
  obtain ⟨e, after⟩ := exists_mendEdge?_of_kept kept
  rw [after, (mendEdge?_eq_some after).2]
  rfl

theorem mendedBy_mendedEdge (kept : l ∈ keptLinks w) :
    MendedBy (distinctNodes w.nodes) l (mendedEdge w l) := by
  obtain ⟨here, -⟩ := mem_links.1 (keptLinks_subset w kept)
  obtain ⟨other, kept', index, -, made⟩ := exists_of_mendEdge? here (mendEdge?_of_kept kept)
  obtain rfl : other = l :=
    List.inj_on_of_nodup_map (nodup_places _ _) (keptLinks_subset w kept')
      (keptLinks_subset w kept) index
  exact made

theorem keptLinks_sublist (w : Workflow) :
    (keptLinks w).Sublist (links (distinctNodes w.nodes) w.edges) :=
  (cutCycles_sublist _ _ _).trans (firstLinks_sublist _ _)

/-- No link is there twice, so those of all that are kept are the kept ones. -/
theorem filter_keptLinks (w : Workflow) :
    (links (distinctNodes w.nodes) w.edges).filter (· ∈ keptLinks w) = keptLinks w := by
  have inside : (keptLinks w).Sublist
      ((links (distinctNodes w.nodes) w.edges).filter (· ∈ keptLinks w)) := by
    have every : (keptLinks w).filter (· ∈ keptLinks w) = keptLinks w :=
      List.filter_eq_self.2 fun l mem => decide_eq_true mem
    have stays := (keptLinks_sublist w).filter (· ∈ keptLinks w)
    rwa [every] at stays
  have once := (List.Nodup.of_map _ (nodup_places (distinctNodes w.nodes) w.edges)).filter
    (· ∈ keptLinks w)
  refine (inside.eq_of_length_le (once.length_le_of_subset fun l mem => ?_)).symm
  exact of_decide_eq_true (List.mem_filter.1 mem).2

/-- An edge stays exactly when its link is kept. -/
theorem mendEdge?_eq {entry : Edge × Nat} (mem : entry ∈ w.edges.zipIdx) :
    mendEdge? (edgeFlaws w) entry =
      ((link? (distinctNodes w.nodes) entry).filter (· ∈ keptLinks w)).map (mendedEdge w) := by
  have here := List.mem_zipIdx_iff_getElem?.1 mem
  cases after : mendEdge? (edgeFlaws w) entry with
  | some e =>
    obtain ⟨l, kept, index, edge, -⟩ := exists_of_mendEdge? here after
    obtain rfl : (l.edge, l.index) = entry := Prod.ext edge index
    rw [(mem_links.1 (keptLinks_subset w kept)).2, Option.filter_some, if_pos (decide_eq_true kept),
      Option.map_some, ← mendEdge?_of_kept kept, after]
  | none =>
    cases found : link? (distinctNodes w.nodes) entry with
    | none => rfl
    | some l =>
      obtain ⟨-, -, index, edge⟩ := link?_eq_some_iff.1 found
      obtain rfl : (l.edge, l.index) = entry := Prod.ext edge index
      have gone : l ∉ keptLinks w := fun kept => by
        rw [mendEdge?_of_kept kept] at after
        cases after
      rw [Option.filter_some, if_neg (mt of_decide_eq_true gone)]
      rfl

theorem edges_mended_eq_map (w : Workflow) :
    (mended w).edges = (keptLinks w).map (mendedEdge w) := by
  rw [edges_mended, List.filterMap_congr fun entry mem => mendEdge?_eq mem,
    ← List.map_filterMap, ← List.filter_filterMap]
  exact congrArg (List.map _) (filter_keptLinks w)

/-- The edges that stay join what the links join that are kept. -/
theorem map_pair_mended (w : Workflow) :
    (mended w).edges.map Edge.pair = (keptLinks w).map Arc.ends := by
  rw [edges_mended_eq_map, List.map_map]
  refine List.map_congr_left fun l kept => ?_
  have made := mendedBy_mendedEdge kept
  exact Prod.ext made.source made.target

end WorkflowRepair.Repair
