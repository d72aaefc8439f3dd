import WorkflowRepair.Proofs.Repair.Steady
import WorkflowRepair.Proofs.Validation.Rules
import WorkflowRepair.Proofs.Validation.Temperature
import WorkflowRepair.Proofs.Validation.WellFormed

/-!
What a structural repair guarantees. It goes by the first node of each id, as the validation does
where nothing is wrong with the identities of nodes; so there the rules that the mending is about
are met afterwards. The passes that may still find something have rules of their own.
-/

namespace WorkflowRepair

open Validation (Anchored Reports hasKind)

/-! ### The first node with an id -/

namespace Repair

/-- Among distinct nodes a search for an id that was not seen before comes to the same node. -/
theorem find?_distinctAfter {seen : List String} {nodes : List Node} {id : String}
    (named : id ≠ "") (new : id ∉ seen) :
    (distinctAfter seen nodes).find? (fun n => n.id == id) = nodes.find? fun n => n.id == id := by
  induction nodes generalizing seen with
  | nil => rfl
  | cons node rest ih =>
    unfold distinctAfter
    by_cases same : node.id = id
    · have first : ¬ (node.id = "" ∨ seen.contains node.id = true) := by
        rw [same, List.contains_iff_mem]
        exact not_or.2 ⟨named, new⟩
      rw [if_neg first]
      simp only [List.find?_cons, same, beq_self_eq_true]
    · have other : (node.id == id) = false := beq_eq_false_iff_ne.2 same
      split
      · simp only [List.find?_cons, other]
        exact ih new
      · simp only [List.find?_cons, other]
        exact ih (List.not_mem_cons_of_ne_of_not_mem (Ne.symm same) new)

/-- Leaving out the later nodes with an id does not change the kind of the id. -/
theorem hasKind_distinctNodes {nodes : List Node} {id : String} (kind : NodeKind)
    (named : id ≠ "") : hasKind (distinctNodes nodes) id kind = hasKind nodes id kind := by
  rw [hasKind, hasKind, distinctNodes, find?_distinctAfter named List.not_mem_nil]

end Repair

theorem Workflow.hasKind_iff {w : Workflow} {id : String} {kind : NodeKind} :
    hasKind w.nodes id kind = true ↔ ∃ n, w.node? id = some n ∧ n.isKind kind = true := by
  have same : (w.nodes.find? fun n => n.id == id) = w.node? id := rfl
  rw [hasKind, same]
  cases w.node? id <;> simp

theorem Workflow.mem_nodeIds {w : Workflow} {id : String} :
    id ∈ w.nodeIds ↔ id ∈ w.nodes.map Node.id ∧ id ≠ "" := by
  simp [nodeIds, List.mem_filter]

namespace Repair

/-! ### Mended edges -/

variable {w : Workflow} {e : Edge}

theorem mem_nodeIds_of_distinct {n : Node} (mem : n ∈ distinctNodes w.nodes) : n.id ∈ w.nodeIds :=
  Workflow.mem_nodeIds.2 ⟨List.mem_map_of_mem (distinctNodes_subset w.nodes mem),
    id_ne_of_mem_distinctNodes mem⟩

theorem mem_nodeIds_of_endpoint? {name id : String}
    (h : endpoint? (distinctNodes w.nodes) name = some id) : id ∈ w.nodeIds := by
  obtain ⟨n, mem, rfl⟩ := List.mem_map.1 (mem_of_endpoint? h)
  exact mem_nodeIds_of_distinct mem

theorem ends_mended (h : e ∈ (mended w).edges) : e.source ∈ w.nodeIds ∧ e.target ∈ w.nodeIds :=
  ⟨mem_nodeIds_of_endpoint? ((steady_mended w).source e h),
    mem_nodeIds_of_endpoint? ((steady_mended w).target e h)⟩

theorem anchored_mended (w : Workflow) : Anchored w.nodes (mended w).edges := fun _ here =>
  ⟨(Workflow.mem_nodeIds.1 (ends_mended here).1).1, (Workflow.mem_nodeIds.1 (ends_mended here).2).1⟩

theorem branch_mended (h : e ∈ (mended w).edges) (handle : e.hasHandle = true) :
    hasKind w.nodes e.source .branch = true := by
  have named := (Workflow.mem_nodeIds.1 (ends_mended h).1).2
  rw [← hasKind_distinctNodes .branch named]
  exact plain_mended h handle

theorem exists_id_mended (h : e ∈ (mended w).edges) : ∃ id, e.id = some id ∧ id ≠ "" := by
  obtain ⟨id, named⟩ := Option.ne_none_iff_exists'.1 ((steady_mended w).named e h)
  have given := (Option.filter_eq_some_iff.1 named).2
  exact ⟨id, named, of_decide_eq_true given⟩

end Repair

namespace Validation

variable {profile : Profile} {nodes : List Node} {edges : List Edge} {found : List Finding}

/-! ### The validation of mended edges -/

theorem identityFindings_subset (given : nodes ≠ [])
    (run : findings profile nodes edges = .ok found) : identityFindings [] nodes ⊆ found := by
  intro f mem
  obtain ⟨settings, -, rfl⟩ := findings_passes given run
  simp only [List.mem_append]
  simp [mem]

/-- Where no rule on identities is reported, nothing is wrong with them. -/
theorem identityFindings_eq_nil {v : Validator} {w : Workflow} {report : Report}
    (run : v.reportOn w = .ok report) (identified : report.has Rule.nodeIdentity.code = false)
    (distinct : report.has Rule.duplicateId.code = false) : identityFindings [] w.nodes = [] := by
  by_cases given : w.nodes = []
  · rw [given]
    rfl
  simp only [Validator.reportOn, Validator.report] at run
  split at run
  · cases run
  · next found findings =>
    rw [← Except.ok.inj run] at identified distinct
    refine List.eq_nil_iff_forall_not_mem.2 fun f mem => ?_
    have here : f ∈ found := identityFindings_subset given findings mem
    have rule := reports_identity [] w.nodes f mem
    simp only [List.mem_cons, List.not_mem_nil, or_false] at rule
    rcases rule with rule | rule
    · rw [Report.has_code_iff.2 ⟨f, here, rule⟩] at identified
      cases identified
    · rw [Report.has_code_iff.2 ⟨f, here, rule⟩] at distinct
      cases distinct

/-- The rules that the mending of edges is about. -/
def edgeRules : List Rule := [.edgeEnds, .cycle, .unknownEndpoint, .duplicateEdge, .strayHandle]

/-- Where the edges are as the mending leaves them, only other rules are reported. -/
theorem reports_others (identity : identityFindings [] nodes = []) (anchored : Anchored nodes edges)
    (simple : (edges.map Edge.pair).Nodup) (acyclic : Graph.Acyclic edges)
    (plain : ∀ e ∈ edges, e.hasHandle = true → hasKind nodes e.source .branch = true)
    (run : findings profile nodes edges = .ok found) :
    Reports (Rule.all.filter (· ∉ edgeRules)) found := by
  by_cases given : nodes = []
  · subst given
    rw [← Except.ok.inj run]
    exact .one (by decide)
  have named : ∀ n ∈ nodes, n.id ≠ "" :=
    fun n hn => ((identityFindings_eq_nil_iff.1 identity).1 n hn).id
  have connection : edgeFindings nodes edges = [] :=
    (edgeFindings_eq_nil_iff named).2 ⟨anchored, simple, plain⟩
  have cycle : cycleFindings nodes edges = [] := (cycleFindings_eq_nil_iff anchored).2 acyclic
  obtain ⟨settings, ran, rfl⟩ := findings_passes given run
  rw [soundNodes_eq_self identity] at ran ⊢
  rw [soundEdges_eq_self named anchored, connection, cycle]
  refine .append (.append (.append (.append (.append (.append (.append (.append ?_ ?_) ?_) ?_) ?_)
    ?_) ?_) ?_) ?_
  · exact (reports_identity [] nodes).mono (by decide)
  · refine .ite (fun _ => ?_) fun _ => .nil
    exact .append ((reports_naming nodes).mono (by decide))
      ((reports_presence nodes).mono (by decide))
  · exact .nil
  · exact (reports_branches profile nodes edges).mono (by decide)
  · exact (reports_meeting nodes edges).mono (by decide)
  · exact .nil
  · exact (reports_orphans nodes edges).mono (by decide)
  · exact (reports_allNodes ran).mono (by decide)
  · exact .ite (fun _ => (reports_references nodes).mono (by decide)) fun _ => .nil

end Validation

namespace Repair

/-- What the mending of a workflow comes to. The ends of every edge are ids of nodes, no two edges
have the same ends, no edges form a cycle, an edge with a handle leaves a branch, and every edge has
an id. A validator with nothing to say about the identities of the nodes has nothing to say about
any of this afterwards. -/
structure Guarantees (w fixed : Workflow) : Prop where
  nodes : fixed.nodes = w.nodes
  ends : ∀ e ∈ fixed.edges, e.source ∈ w.nodeIds ∧ e.target ∈ w.nodeIds
  simple : (fixed.edges.map Edge.pair).Nodup
  acyclic : Graph.Acyclic fixed.edges
  plain : ∀ e ∈ fixed.edges, e.hasHandle = true →
    ∃ n, w.node? e.source = some n ∧ n.isKind .branch = true
  identified : ∀ e ∈ fixed.edges, ∃ id, e.id = some id ∧ id ≠ ""
  clears : ∀ (v : Validator) before, v.reportOn w = .ok before →
    before.has "FFV-NODE-001" = false → before.has "FFV-NODE-002" = false →
      ∃ after, v.reportOn fixed = .ok after ∧
        ∀ code ∈ ["FFV-EDGE-001", "FFV-STRUCT-001", "FFV-STRUCT-002", "FFV-STRUCT-003",
          "FFV-BRANCH-003"], after.has code = false

theorem exists_report_mended {v : Validator} {w : Workflow} {before : Report}
    (report : v.reportOn w = .ok before) : ∃ after, v.reportOn (mended w) = .ok after := by
  have examinable : Validation.Examinable v.profile w.nodes :=
    Validation.reportOn_ok_iff.1 ⟨before, report⟩
  exact Validation.reportOn_ok_iff.2 examinable

theorem clears_mended {v : Validator} {w : Workflow} {before : Report}
    (report : v.reportOn w = .ok before) (identified : before.has Rule.nodeIdentity.code = false)
    (distinct : before.has Rule.duplicateId.code = false) :
    ∃ after, v.reportOn (mended w) = .ok after ∧
      ∀ rule ∈ Validation.edgeRules, after.has rule.code = false := by
  obtain ⟨after, again⟩ := exists_report_mended report
  refine ⟨after, again, fun rule mem => ?_⟩
  have identity := Validation.identityFindings_eq_nil report identified distinct
  simp only [Validator.reportOn, Validator.report, nodes_mended] at again
  split at again
  · cases again
  · next found run =>
    have others := Validation.reports_others identity (anchored_mended w) (steady_mended w).once
      (steady_mended w).acyclic (fun e => branch_mended) run
    rw [← Except.ok.inj again, Bool.eq_false_iff]
    intro reported
    obtain ⟨f, here, rfl⟩ := Report.has_code_iff.1 reported
    exact of_decide_eq_true (List.mem_filter.1 (others f here)).2 mem

/-- Mending the safe defects of any workflow gives all of this. -/
theorem guarantees_mend_safe (w : Workflow) :
    Guarantees w (mend w (((defects w).filter Defect.isSafe).filterMap Defect.flaw?)) := by
  rw [mend_safe]
  refine ⟨nodes_mended w, fun e => ends_mended, (steady_mended w).once, (steady_mended w).acyclic,
    fun e here handle => Workflow.hasKind_iff.1 (branch_mended here handle),
    fun e => exists_id_mended, fun v before report identified distinct => ?_⟩
  obtain ⟨after, again, clear⟩ := clears_mended report identified distinct
  refine ⟨after, again, fun code mem => ?_⟩
  have among : code ∈ Validation.edgeRules.map Rule.code := mem
  obtain ⟨rule, here, rfl⟩ := List.mem_map.1 among
  exact clear rule here

/-- A workflow with every flaw that an edge can have. -/
def tangled : Workflow :=
  { nodes := [{ id := "a", type := "input", data := [("label", .str "Start")] },
      { id := "b", type := "llm" }, { id := "c", type := "output" }]
    edges := [{ source := "Start", target := "b", sourceHandle := .str "true" },
      { source := "a", target := "b", sourceHandle := .str "true" },
      { source := "a", target := "b" }, { source := "b", target := "c" },
      { source := "c", target := "a" }, { source := "a", target := "gone" }, { target := "c" }] }

/-- All that the mending is about is found before it, and nothing of it afterwards. -/
theorem guarantees_mend_safe_tangled :
    ∃ before after, Validator.reportOn {} tangled = .ok before ∧
      before.codes = ["FFV-STRUCT-002", "FFV-STRUCT-002", "FFV-EDGE-001", "FFV-BRANCH-003",
        "FFV-STRUCT-003", "FFV-STRUCT-001"] ∧
      Validator.reportOn {} (mend tangled (((defects tangled).filter Defect.isSafe).filterMap
        Defect.flaw?)) = .ok after ∧ ∀ code ∈ before.codes, after.has code = false := by
  have first : (Validator.reportOn {} tangled).toOption.map (fun report =>
      (report.codes, report.has "FFV-NODE-001", report.has "FFV-NODE-002")) =
        some (["FFV-STRUCT-002", "FFV-STRUCT-002", "FFV-EDGE-001", "FFV-BRANCH-003",
          "FFV-STRUCT-003", "FFV-STRUCT-001"], false, false) := by
    decide +kernel
  obtain ⟨before, report, found⟩ := ok_of_toOption first
  injection found with codes none
  injection none with identified distinct
  obtain ⟨after, again, clear⟩ :=
    (guarantees_mend_safe tangled).clears {} before report identified distinct
  refine ⟨before, after, report, codes, again, fun code mem => clear code ?_⟩
  have among : ["FFV-STRUCT-002", "FFV-STRUCT-002", "FFV-EDGE-001", "FFV-BRANCH-003",
      "FFV-STRUCT-003", "FFV-STRUCT-001"] ⊆ ["FFV-EDGE-001", "FFV-STRUCT-001", "FFV-STRUCT-002",
        "FFV-STRUCT-003", "FFV-BRANCH-003"] := by decide
  exact among (codes ▸ mem)

end Repair

end WorkflowRepair
