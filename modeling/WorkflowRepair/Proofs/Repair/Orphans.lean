import WorkflowRepair.Proofs.Repair.Again
import WorkflowRepair.Proofs.Repair.Guarantee
import WorkflowRepair.Proofs.Validation.Orphans

/-!
The detection and the validation agree about the nodes off every way. The detection looks at the
links it keeps, the validation at the edges that the mending leaves; both join the same nodes, and
where nothing is wrong with the identities both look at the nodes as they are given.
-/

namespace WorkflowRepair

open Validation (identityFindings uncovered)

/-- The id of the node, when the defect is a node off every way. -/
def Defect.orphanId? : Defect → Option String
  | .edge _ => none
  | .orphan id _ => some id

namespace Repair

/-- The ids of the nodes that are found off every way, in order. -/
def orphanIds (w : Workflow) : List String := (defects w).filterMap Defect.orphanId?

/-! ### The nodes that the detection finds -/

theorem filterMap_orphanId?_edge (flaws : List EdgeFlaw) :
    (flaws.map Defect.edge).filterMap Defect.orphanId? = [] := by
  rw [List.filterMap_map]
  exact List.filterMap_eq_nil_iff.2 fun _ _ => rfl

theorem filterMap_orphanId?_orphan (nodes : List Node) (ls : List Link) :
    (orphanDefects nodes ls).filterMap Defect.orphanId? = uncovered nodes ls := by
  unfold orphanDefects uncovered
  cases Graph.coverage? (Validation.idsOfKind nodes .input) (Validation.idsOfKind nodes .output) ls
      nodes.length with
  | none => rfl
  | some coverage =>
    simp only [List.filterMap_map]
    exact congrFun (List.filterMap_eq_map (f := Node.id)) _

theorem orphanIds_eq (w : Workflow) :
    orphanIds w = uncovered (distinctNodes w.nodes) (keptLinks w) := by
  obtain ⟨first, later, -, found⟩ := exists_defects_eq w
  rw [orphanIds, found, List.filterMap_append, List.filterMap_append, filterMap_orphanId?_edge,
    filterMap_orphanId?_edge, filterMap_orphanId?_orphan, List.nil_append, List.append_nil]

/-! ### The nodes that the validation finds -/

theorem distinctAfter_eq_self {seen : List String} {nodes : List Node}
    (named : ∀ n ∈ nodes, n.id ≠ "") (fresh : Validation.Fresh Node.id seen nodes) :
    distinctAfter seen nodes = nodes := by
  induction nodes generalizing seen with
  | nil => rfl
  | cons node rest ih =>
    obtain ⟨new, fresh⟩ := Validation.fresh_cons.1 fresh
    have first : ¬ (node.id = "" ∨ seen.contains node.id = true) := by
      rw [List.contains_iff_mem]
      exact not_or.2 ⟨named node List.mem_cons_self, new⟩
    unfold distinctAfter
    rw [if_neg first, ih (fun n mem => named n (List.mem_cons_of_mem _ mem)) fresh]

theorem uncovered_mended {w : Workflow} (identity : identityFindings [] w.nodes = []) :
    uncovered w.nodes (mended w).edges = orphanIds w := by
  obtain ⟨identified, fresh⟩ := Validation.identityFindings_eq_nil_iff.1 identity
  have distinct : distinctNodes w.nodes = w.nodes :=
    distinctAfter_eq_self (fun n mem => (identified n mem).id) fresh
  rw [orphanIds_eq, distinct]
  exact Validation.uncovered_congr w.nodes (map_pair_mended w)

/-- Where a validator has nothing to say about the identities of the nodes, the nodes that it
reports as off every way once the safe defects are mended are those that the detection found, in the
same order. -/
theorem orphans_agree {v : Validator} {w : Workflow} {before : Report}
    (report : v.reportOn w = .ok before) (identified : before.has "FFV-NODE-001" = false)
    (distinct : before.has "FFV-NODE-002" = false) :
    ∃ after, v.reportOn (mend w (safeFlaws w)) = .ok after ∧
      (after.issues.filter (·.code = "FFV-STRUCT-004")).map (·.location.nodeId) =
        (orphanIds w).map some := by
  have identity := Validation.identityFindings_eq_nil report identified distinct
  have named : ∀ n ∈ w.nodes, n.id ≠ "" :=
    fun n mem => ((Validation.identityFindings_eq_nil_iff.1 identity).1 n mem).id
  obtain ⟨after, again⟩ := exists_report_mended report
  rw [show mend w (safeFlaws w) = mended w from mend_safe w]
  refine ⟨after, again, ?_⟩
  simp only [Validator.reportOn, Validator.report, nodes_mended] at again
  split at again
  · cases again
  · next found run =>
    have orphans : found.filter (·.rule = .orphan) =
        Validation.orphanFindings w.nodes (mended w).edges := by
      rw [Validation.filter_orphan run, Validation.soundNodes_eq_self identity,
        Validation.soundEdges_eq_self named (anchored_mended w)]
    rw [← Except.ok.inj again, ← uncovered_mended identity,
      ← Validation.places_of_orphans named v.catalog, ← orphans]
    exact congrArg (List.map _) (Validation.issues_of_rule v.catalog found .orphan)

/-- An alias hides the edge out of the input, and no edge touches the tool. -/
def veiled : Workflow :=
  { nodes := [{ id := "a", type := "input", data := [("label", .str "Start")] },
      { id := "b", type := "llm" }, { id := "c", type := "output" }, { id := "d", type := "tool" }]
    edges := [{ source := "Start", target := "b" }, { source := "b", target := "c" }] }

/-- At first no node is on a way through the graph; the detection knows already that only the tool
stays off every way. -/
theorem orphans_agree_veiled : ∃ before after, Validator.reportOn {} veiled = .ok before ∧
    before.codes.count "FFV-STRUCT-004" = 4 ∧
    Validator.reportOn {} (mend veiled (safeFlaws veiled)) = .ok after ∧
    (after.issues.filter (·.code = "FFV-STRUCT-004")).map (·.location.nodeId) = [some "d"] := by
  have first : (Validator.reportOn {} veiled).toOption.map (fun report =>
      (report.codes.count "FFV-STRUCT-004", report.has "FFV-NODE-001",
        report.has "FFV-NODE-002")) = some (4, false, false) := by
    decide +kernel
  have lone : orphanIds veiled = ["d"] := by decide +kernel
  obtain ⟨before, report, found⟩ := ok_of_toOption first
  injection found with count none
  injection none with identified distinct
  obtain ⟨after, again, orphans⟩ := orphans_agree report identified distinct
  rw [lone] at orphans
  exact ⟨before, after, report, count, again, orphans⟩

end Repair

end WorkflowRepair
