import WorkflowRepair.Proofs.Repair.Answers
import WorkflowRepair.Proofs.Repair.Staying

/-!
A second structural repair. What is mended has no flaw left, and the links that its edges make are
those that were kept, so all that is found in it are the nodes off every way that were found before.
A repair that was taken back is taken back again, and one that was not called for still is not.
-/

namespace WorkflowRepair.Repair

/-! ### Defects by their kind -/

/-- The flaws of edges stand around the nodes off every way, in the order of repair. -/
theorem exists_defects_eq (w : Workflow) : ∃ first later, edgeFlaws w = first ++ later ∧
    defects w = first.map .edge ++ orphanDefects (distinctNodes w.nodes) (keptLinks w) ++
      later.map .edge := by
  refine ⟨_, _, rfl, ?_⟩
  simp only [List.map_append, List.map_map]
  rfl

theorem filter_isSafe_edge (flaws : List EdgeFlaw) :
    (flaws.map Defect.edge).filter (fun d => !d.isSafe) = [] := by
  refine List.filter_eq_nil_iff.2 fun d mem => ?_
  obtain ⟨flaw, -, rfl⟩ := List.mem_map.1 mem
  exact Bool.false_ne_true

theorem isSafe_orphan {nodes : List Node} {ls : List Link} {d : Defect}
    (h : d ∈ orphanDefects nodes ls) : d.isSafe = false := by
  unfold orphanDefects at h
  split at h
  · cases h
  · obtain ⟨n, -, rfl⟩ := List.mem_map.1 h
    rfl

/-- What cannot be mended without guessing are the nodes off every way. -/
theorem filter_not_isSafe (w : Workflow) :
    (defects w).filter (fun d => !d.isSafe) =
      orphanDefects (distinctNodes w.nodes) (keptLinks w) := by
  obtain ⟨first, later, -, found⟩ := exists_defects_eq w
  have orphans : (orphanDefects (distinctNodes w.nodes) (keptLinks w)).filter
      (fun d => !d.isSafe) = orphanDefects (distinctNodes w.nodes) (keptLinks w) :=
    List.filter_eq_self.2 fun d mem => by rw [isSafe_orphan mem]; rfl
  rw [found, List.filter_append, List.filter_append, filter_isSafe_edge, filter_isSafe_edge,
    orphans, List.nil_append, List.append_nil]

theorem defects_of_flawless {w : Workflow} (flawless : edgeFlaws w = []) :
    defects w = orphanDefects (distinctNodes w.nodes) (keptLinks w) := by
  obtain ⟨first, later, flaws, found⟩ := exists_defects_eq w
  obtain ⟨rfl, rfl⟩ := List.append_eq_nil_iff.1 (flaws.symm.trans flawless)
  rw [found, List.map_nil, List.nil_append, List.append_nil]

/-- Which nodes are off every way, and how to connect them, goes by what the links join. -/
theorem orphanDefects_congr (nodes : List Node) {ls ls' : List Link}
    (same : ls'.map Arc.ends = ls.map Arc.ends) :
    orphanDefects nodes ls' = orphanDefects nodes ls := by
  rw [orphanDefects, orphanDefects, Graph.coverage?_congr same]

/-! ### What is found after mending -/

theorem edgeFlaws_mended (w : Workflow) : edgeFlaws (mended w) = [] := by
  have steady : Steady (distinctNodes (mended w).nodes) (mended w).edges := steady_mended w
  rw [edgeFlaws_of_steady steady, List.map_eq_nil_iff]
  refine List.filter_eq_nil_iff.2 fun l mem stray => ?_
  obtain ⟨here, source, -⟩ := mem_edges_of_mem_links steady mem
  rw [source, Bool.and_eq_true] at stray
  have branch := plain_mended here stray.1
  rw [nodes_mended, branch] at stray
  exact absurd stray.2 (by decide)

theorem map_ends_keptLinks_mended (w : Workflow) :
    (keptLinks (mended w)).map Arc.ends = (keptLinks w).map Arc.ends := by
  have steady : Steady (distinctNodes (mended w).nodes) (mended w).edges := steady_mended w
  rw [keptLinks_of_steady steady, map_ends_links steady, map_pair_mended]

theorem defects_mended (w : Workflow) :
    defects (mended w) = (defects w).filter fun d => !d.isSafe := by
  rw [defects_of_flawless (edgeFlaws_mended w), filter_not_isSafe, nodes_mended,
    orphanDefects_congr _ (map_ends_keptLinks_mended w)]

theorem filter_isSafe_mended (w : Workflow) : (defects (mended w)).filter Defect.isSafe = [] := by
  rw [defects_mended, List.filter_filter]
  exact List.filter_eq_nil_iff.2 fun d _ => by simp

theorem mend_nil (w : Workflow) : mend w [] = w := by
  have every : w.edges.zipIdx.filterMap (mendEdge? []) = w.edges.zipIdx.map Prod.fst := by
    rw [← List.filterMap_eq_map]
    rfl
  rw [mend, every, List.zipIdx_map_fst]

theorem mended_mended (w : Workflow) : mended (mended w) = mended w := by
  rw [mended, filterMap_flaw?_defects, edgeFlaws_mended, mend_nil]

/-! ### The second repair -/

theorem fixStructure_mended {v : Validator} {onlyInvalid : Bool} {w : Workflow}
    {o : StructureOutcome} (h : fixStructure v onlyInvalid (mended w) = .ok o) :
    o.workflow = mended w ∧ o.applied = [] := by
  cases structureEnd_of_fixStructure h with
  | leftAlone => exact ⟨rfl, rfl⟩
  | takenBack => exact ⟨rfl, rfl⟩
  | stands => exact ⟨mended_mended w, filter_isSafe_mended w⟩

/-- Where the first repair gives its own workflow back, the second is the first. -/
theorem exists_fixStructure_again {v : Validator} {onlyInvalid : Bool} {w : Workflow}
    {o : StructureOutcome} (h : fixStructure v onlyInvalid w = .ok o) :
    ∃ again, fixStructure v onlyInvalid o.workflow = .ok again ∧
      again.workflow = o.workflow ∧ again.applied = [] := by
  cases structureEnd_of_fixStructure h with
  | leftAlone => exact ⟨_, h, rfl, rfl⟩
  | takenBack => exact ⟨_, h, rfl, rfl⟩
  | stands =>
    have examinable := (kept_mended none w).examinable (fixStructure_ok_iff.1 ⟨_, h⟩)
    obtain ⟨again, second⟩ : ∃ again, fixStructure v onlyInvalid (mended w) = .ok again :=
      fixStructure_ok_iff.2 examinable
    exact ⟨again, second, fixStructure_mended second⟩

/-- A structural repair of what one has made answers and changes nothing, whether valid workflows
are kept from it or not. What is found once the safe defects are mended are the others that were
found before, as they were. -/
theorem fixStructure_again (w : Workflow) :
    (∀ v onlyInvalid o, fixStructure v onlyInvalid w = .ok o →
      ∃ again, fixStructure v onlyInvalid o.workflow = .ok again ∧
        again.workflow = o.workflow ∧ again.applied = []) ∧
    defects (mend w (safeFlaws w)) = (defects w).filter fun d => !d.isSafe := by
  refine ⟨fun v onlyInvalid o h => exists_fixStructure_again h, ?_⟩
  rw [show mend w (safeFlaws w) = mended w from mend_safe w]
  exact defects_mended w

/-- An alias, a repetition, a cycle and a stray handle, and a node that no edge touches. -/
def frayed : Workflow :=
  { nodes := [{ id := "a", type := "input", data := [("label", .str "Start")] },
      { id := "b", type := "llm" }, { id := "c", type := "output" }, { id := "d", type := "tool" }]
    edges := [{ source := "Start", target := "B", sourceHandle := .str "true" },
      { source := "a", target := "b" }, { source := "b", target := "c" },
      { source := "c", target := "a" }] }

/-- The first repair mends seven defects and the second none; the node that stands alone is found
both times, with the same two edges to connect it. -/
theorem fixStructure_again_frayed : ∃ o again, fixStructure {} true frayed = .ok o ∧
    o.applied.length = 7 ∧ o.workflow ≠ frayed ∧
    fixStructure {} true o.workflow = .ok again ∧ again.workflow = o.workflow ∧
    again.applied = [] ∧
    defects (mend frayed (safeFlaws frayed)) = [.orphan "d" [("a", "d"), ("d", "c")]] := by
  have first : (fixStructure {} true frayed).toOption.map
      (fun o => (o.applied.length, decide (o.workflow ≠ frayed))) = some (7, true) := by
    decide +kernel
  have lone : (defects frayed).filter (fun d => !d.isSafe) =
      [.orphan "d" [("a", "d"), ("d", "c")]] := by
    decide +kernel
  obtain ⟨o, made, found⟩ := ok_of_toOption first
  injection found with applied changed
  obtain ⟨repeats, left⟩ := fixStructure_again frayed
  obtain ⟨again, second, same, none⟩ := repeats {} true o made
  exact ⟨o, again, made, applied, of_decide_eq_true changed, second, same, none, left.trans lone⟩

end WorkflowRepair.Repair
