import WorkflowRepair.Proofs.Listed
import WorkflowRepair.Proofs.Validation.Orphans
import WorkflowRepair.Proofs.Validation.Temperature

/-!
The order in which nodes and edges are listed. Where the lists are put in another order, a pass may
find something at another place, such as the other one of two equal edges, but it finds the same
rules broken as often. For the nodes this takes that no id repeats, since of several nodes with one
id the first is kept.
-/

namespace WorkflowRepair

namespace Validation

/-- The same rules are found broken, each as often. -/
def SameRules (found found' : List Finding) : Prop :=
  (found'.map Finding.rule).Perm (found.map Finding.rule)

namespace SameRules

variable {found found' more more' : List Finding}

theorem refl (found : List Finding) : SameRules found found := List.Perm.refl _

theorem append (h : SameRules found found') (h' : SameRules more more') :
    SameRules (found ++ more) (found' ++ more') := by
  simp only [SameRules, List.map_append]
  exact List.Perm.append h h'

/-- Checks of single items in another order. -/
theorem flatMap {α : Type} {items items' : List α} {check check' : α → List Finding}
    (perm : items'.Perm items) (each : ∀ a ∈ items', SameRules (check a) (check' a)) :
    SameRules (items.flatMap check) (items'.flatMap check') := by
  simp only [SameRules, List.map_flatMap]
  exact perm.flatMap each

theorem filterMap {α : Type} {items items' : List α} {check check' : α → Option Finding}
    (perm : items'.Perm items)
    (each : ∀ a, (check' a).map Finding.rule = (check a).map Finding.rule) :
    SameRules (items.filterMap check) (items'.filterMap check') := by
  simp only [SameRules, List.map_filterMap, each]
  exact perm.filterMap _

/-- A pass that finds something under a condition only. -/
theorem ite {p : Prop} [Decidable p] (h : SameRules found found') :
    SameRules (if p then found else []) (if p then found' else []) := by
  split
  · exact h
  · exact refl []

end SameRules

/-- Of the nodes with a normal label it only matters how many there are. -/
theorem rules_sharedLabels (nodes : List Node) (label : String) :
    (sharedLabelFindings nodes label).map Finding.rule =
      List.replicate (if isReserved label then (idsLabelled nodes label).length else 0)
          .reservedLabel
        ++ if 2 ≤ (idsLabelled nodes label).length then [.duplicateLabel] else [] := by
  unfold sharedLabelFindings
  rw [List.map_append]
  refine congrArg₂ _ ?_ ?_
  · split
    · simp only [List.map_map, Function.comp_def, Finding.rule_onField, List.map_const']
    · rfl
  · rcases idsLabelled nodes label with - | ⟨first, - | ⟨second, rest⟩⟩
    · rfl
    · rfl
    · simp

section Listed

variable {nodes nodes' : List Node} {edges edges' : List Edge} (listed : nodes'.Perm nodes)
  (linked : edges'.Perm edges)

/-! ### Names -/

section Names

include listed

theorem sharedLabels_listed (label : String) :
    SameRules (sharedLabelFindings nodes label) (sharedLabelFindings nodes' label) := by
  have perm : (idsLabelled nodes' label).Perm (idsLabelled nodes label) :=
    (listed.filter _).map Node.id
  simp only [SameRules, rules_sharedLabels, perm.length_eq]
  exact .refl _

theorem naming_listed : SameRules (namingFindings nodes) (namingFindings nodes') := by
  refine .append (.flatMap listed fun n _ => .refl _) (.flatMap ?_ fun label _ => ?_)
  · exact eraseDups_perm ((listed.filter _).map _)
  · exact sharedLabels_listed listed label

theorem presence_listed : SameRules (presenceFindings nodes) (presenceFindings nodes') := by
  rw [presenceFindings, presenceFindings, listed.any_eq, listed.any_eq]
  exact .refl _

theorem knows_listed : knows nodes' = knows nodes := by
  funext id
  exact listed.any_eq

theorem resolves_listed : resolves nodes' = resolves nodes := by
  funext name
  have single : namesSingleKind nodes' name = namesSingleKind nodes name := by
    unfold namesSingleKind
    cases NodeKind.ofAlias? name with
    | none => rfl
    | some kind => simp only [listed.countP_eq]
  rw [resolves, resolves, single, hasLabel, hasLabel, listed.any_eq]

theorem references_listed : SameRules (referenceFindings nodes) (referenceFindings nodes') := by
  unfold referenceFindings fieldReferenceFindings
  rw [resolves_listed listed]
  exact .flatMap listed fun n _ => .refl _

theorem hasKind_listed (distinct : (nodes.map Node.id).Nodup) : hasKind nodes' = hasKind nodes := by
  funext id kind
  have distinct' : (nodes'.map Node.id).Nodup := (listed.map Node.id).nodup_iff.2 distinct
  rw [Bool.eq_iff_iff, hasKind_iff distinct, hasKind_iff distinct']
  simp only [listed.mem_iff]

end Names

/-! ### Edges -/

/-- The rule that an edge breaks after edges with the given ends. -/
def repeatRules (seen : List (String × String)) (edge : Edge) : List Rule :=
  if seen.contains edge.pair then [.duplicateEdge] else []

/-- The rule that the handle of an edge breaks. -/
def handleRules (nodes : List Node) (edge : Edge) : List Rule :=
  if edge.hasHandle && !hasKind nodes edge.source .branch then [.strayHandle] else []

theorem rules_connections_cons (seen : List (String × String)) (edge : Edge) (rest : List Edge) :
    (connectionFindings nodes seen (edge :: rest)).map Finding.rule =
      repeatRules seen edge ++ handleRules nodes edge ++
        (connectionFindings nodes (edge.pair :: seen) rest).map Finding.rule := by
  simp only [connectionFindings, repeatRules, handleRules, List.map_append, apply_ite,
    List.map_cons, List.map_nil, Finding.rule_onExit]

/-- Of two edges in a row it does not matter which one comes first. -/
theorem repeatRules_swap (seen : List (String × String)) (e f : Edge) :
    (repeatRules seen e ++ repeatRules (e.pair :: seen) f).Perm
      (repeatRules seen f ++ repeatRules (f.pair :: seen) e) := by
  by_cases same : e.pair = f.pair
  · simp only [repeatRules, same]
    exact .refl _
  · have later : repeatRules (e.pair :: seen) f = repeatRules seen f := by
      simp [repeatRules, Ne.symm same]
    have later' : repeatRules (f.pair :: seen) e = repeatRules seen e := by
      simp [repeatRules, same]
    rw [later, later']
    exact List.perm_append_comm

/-- Edges that were seen before matter as a set. -/
theorem connectionFindings_congr {seen seen' : List (String × String)}
    (same : ∀ pair, pair ∈ seen' ↔ pair ∈ seen) (edges : List Edge) :
    connectionFindings nodes seen' edges = connectionFindings nodes seen edges := by
  induction edges generalizing seen seen' with
  | nil => rfl
  | cons edge rest ih =>
    have known : seen'.contains edge.pair = seen.contains edge.pair := by
      rw [Bool.eq_iff_iff, List.contains_iff_mem, List.contains_iff_mem, same]
    have same' : ∀ pair, pair ∈ edge.pair :: seen' ↔ pair ∈ edge.pair :: seen := by
      simp [same]
    simp only [connectionFindings, known, ih same']

/-- Edges that change places are both seen by the later ones, and their handles are examined one by
one. -/
theorem connections_listed (linked : edges'.Perm edges) (seen : List (String × String)) :
    SameRules (connectionFindings nodes seen edges) (connectionFindings nodes seen edges') := by
  induction linked generalizing seen with
  | nil => exact .refl _
  | cons edge _ ih =>
    rw [SameRules, rules_connections_cons, rules_connections_cons]
    exact (ih _).append_left _
  | swap e f rest =>
    have tail : connectionFindings nodes (f.pair :: e.pair :: seen) rest =
        connectionFindings nodes (e.pair :: f.pair :: seen) rest :=
      connectionFindings_congr (fun pair => by simp [or_left_comm]) rest
    have front := repeatRules_swap seen f e
    simp only [SameRules, rules_connections_cons, tail]
    refine List.perm_iff_count.2 fun rule => ?_
    have count := front.count_eq rule
    simp only [List.count_append] at count ⊢
    omega
  | trans _ _ ih ih' => exact (ih seen).trans (ih' seen)

include linked

theorem soundEdges_listed (listed : nodes'.Perm nodes) :
    (soundEdges nodes' edges').Perm (soundEdges nodes edges) := by
  simp only [soundEdges, endpointFinding?, knows_listed listed]
  exact linked.filter _

theorem edges_listed (listed : nodes'.Perm nodes) (distinct : (nodes.map Node.id).Nodup) :
    SameRules (edgeFindings nodes edges) (edgeFindings nodes' edges') := by
  have ends : endpointFinding? nodes' = endpointFinding? nodes := by
    funext edge
    simp only [endpointFinding?, knows_listed listed]
  have handles (seen : List (String × String)) (links : List Edge) :
      connectionFindings nodes' seen links = connectionFindings nodes seen links := by
    induction links generalizing seen with
    | nil => rfl
    | cons edge rest ih => simp only [connectionFindings, hasKind_listed listed distinct, ih]
  rw [edgeFindings, edgeFindings, ends, handles]
  refine .append (.filterMap linked fun _ => rfl) ?_
  exact connections_listed (soundEdges_listed linked listed) []

theorem leaving_listed (id : String) : (Arc.leaving edges' id).Perm (Arc.leaving edges id) :=
  linked.filter _

theorem usesBothExits_listed : usesBothExits edges' = usesBothExits edges := by
  rw [usesBothExits, usesBothExits, linked.any_eq, linked.any_eq]

theorem branches_listed (listed : nodes'.Perm nodes) (profile : Profile) :
    SameRules (branchFindings profile nodes edges) (branchFindings profile nodes' edges') := by
  refine .flatMap (listed.filter _) fun n _ => .append ?_ (.refl _)
  have leaving := leaving_listed linked n.id
  rw [exitFindings, exitFindings, leaving.length_eq, usesBothExits_listed leaving]
  exact .refl _

theorem meetingBranch?_listed (target : String) :
    (meetingBranch? edges' target).isSome = (meetingBranch? edges target).isSome := by
  have into : (edges'.filter fun e => e.target == target).Perm
      (edges.filter fun e => e.target == target) := linked.filter _
  simp only [meetingBranch?, List.isSome_find?, List.any_map]
  have both : (fun e : Edge => usesBothExits (Arc.leaving (edges'.filter fun e =>
      e.target == target) e.source)) = fun e => usesBothExits (Arc.leaving (edges.filter fun e =>
      e.target == target) e.source) :=
    funext fun e => usesBothExits_listed (leaving_listed into e.source)
  simp only [Function.comp_def, both]
  exact into.any_eq

theorem meeting_listed (listed : nodes'.Perm nodes) (distinct : (nodes.map Node.id).Nodup) :
    SameRules (meetingFindings nodes edges) (meetingFindings nodes' edges') := by
  simp only [meetingFindings, hasKind_listed listed distinct]
  have exits := linked.filter fun e => hasKind nodes e.source .branch
  refine .filterMap (eraseDups_perm (exits.map Edge.target)) fun target => ?_
  have met := meetingBranch?_listed exits target
  split
  · rfl
  · cases here : meetingBranch? (edges.filter fun e => hasKind nodes e.source .branch) target with
    | none =>
      rw [here] at met
      have there : meetingBranch? (edges'.filter fun e => hasKind nodes e.source .branch) target =
          none := Option.not_isSome_iff_eq_none.1 (by simp [met])
      rw [there]
    | some id =>
      rw [here] at met
      obtain ⟨id', there⟩ := Option.isSome_iff_exists.1 met
      rw [there]
      rfl

/-! ### Ways -/

theorem step_listed : Graph.Step edges' = Graph.Step edges := by
  funext a b
  simp only [Graph.Step, linked.mem_iff]

theorem cycle_listed (anchored : Anchored nodes edges) (anchored' : Anchored nodes' edges') :
    SameRules (cycleFindings nodes edges) (cycleFindings nodes' edges') := by
  have one (nodes : List Node) (edges : List Edge) : (cycleFindings nodes edges).map Finding.rule =
      if cycleFindings nodes edges = [] then [] else [.cycle] := by
    unfold cycleFindings
    cases Graph.backEdge? (nodes.map Node.id) edges <;> simp
  have none : cycleFindings nodes' edges' = [] ↔ cycleFindings nodes edges = [] := by
    rw [cycleFindings_eq_nil_iff anchored, cycleFindings_eq_nil_iff anchored', Graph.Acyclic,
      Graph.Acyclic, step_listed linked]
  simp only [SameRules, one, none]
  exact .refl _

theorem placed_listed (listed : nodes'.Perm nodes) (n : Node) :
    Placed nodes' edges' n ↔ Placed nodes edges n := by
  have walk (a b : String) (ids : List String) :
      Graph.Route edges' a b ids ↔ Graph.Route edges a b ids :=
    Graph.route_congr (step_listed linked)
  constructor
  · rintro ⟨through, alone⟩
    simp only [walk, listed.mem_iff, linked.mem_iff, listed.length_eq] at through alone
    exact ⟨through, alone⟩
  · rintro ⟨through, alone⟩
    simp only [← walk, ← listed.mem_iff, ← linked.mem_iff, ← listed.length_eq] at through alone
    exact ⟨through, alone⟩

theorem orphans_listed (listed : nodes'.Perm nodes) :
    SameRules (orphanFindings nodes edges) (orphanFindings nodes' edges') := by
  simp only [SameRules, orphanFindings_eq, uncovered_eq, List.map_map, placed_listed linked listed]
  exact (listed.filter _).map _

end Listed

/-! ### Settings -/

/-- What the settings of a node break, nothing where the examination stops. -/
def ownFindings (profile : Profile) (node : Node) : List Finding :=
  (nodeFindings profile node).toOption.getD []

/-- Each node is examined on its own. -/
theorem allNodeFindings_eq_flatMap {profile : Profile} {nodes : List Node} {found : List Finding}
    (run : allNodeFindings profile nodes = .ok found) :
    found = nodes.flatMap (ownFindings profile) := by
  induction nodes generalizing found with
  | nil =>
    cases run
    rfl
  | cons node rest ih =>
    unfold allNodeFindings at run
    split at run
    · cases run
    · next first here =>
      split at run
      · cases run
      · next more later =>
        cases run
        rw [List.flatMap_cons, ← ih later, ownFindings, here]
        rfl

theorem settings_listed {profile : Profile} {nodes nodes' : List Node} {found : List Finding}
    (listed : nodes'.Perm nodes) (run : allNodeFindings profile nodes = .ok found) :
    ∃ found', allNodeFindings profile nodes' = .ok found' ∧ SameRules found found' := by
  obtain ⟨found', run'⟩ : ∃ found', allNodeFindings profile nodes' = .ok found' :=
    allNodeFindings_ok_iff.2 fun n mem =>
      allNodeFindings_ok_iff.1 ⟨found, run⟩ n (listed.mem_iff.1 mem)
  refine ⟨found', run', ?_⟩
  rw [allNodeFindings_eq_flatMap run, allNodeFindings_eq_flatMap run']
  exact .flatMap listed fun n _ => .refl _

/-! ### Identities -/

/-- No id is given twice; several nodes may be without one. -/
def Unrepeated (nodes : List Node) : Prop := ((nodes.map Node.id).filter (· ≠ "")).Nodup

instance (nodes : List Node) : Decidable (Unrepeated nodes) :=
  inferInstanceAs (Decidable (List.Nodup _))

theorem unrepeated_cons {node : Node} {rest : List Node} (h : Unrepeated (node :: rest)) :
    Unrepeated rest ∧ ∀ n ∈ rest, n.id ≠ "" → n.id ≠ node.id := by
  unfold Unrepeated at h ⊢
  rw [List.map_cons, List.filter_cons] at h
  split at h
  · obtain ⟨once, distinct⟩ := List.nodup_cons.1 h
    refine ⟨distinct, fun n mem given same => once ?_⟩
    rw [← same]
    exact List.mem_filter.2 ⟨List.mem_map_of_mem mem, decide_eq_true given⟩
  · next blank =>
    simp only [ne_eq, decide_not, Bool.not_eq_true, Bool.not_eq_false', decide_eq_true_eq] at blank
    exact ⟨h, fun n _ given same => given (same.trans blank)⟩

/-- Ids that were seen before do not matter to a node with another id, or with none. -/
theorem identityFinding?_new {seen : List String} {node : Node}
    (new : node.id ≠ "" → node.id ∉ seen) :
    identityFinding? seen node = identityFinding? [] node := by
  unfold identityFinding?
  by_cases blank : node.id = ""
  · simp [blank]
  · simp [new blank]

/-- Where no id is given twice, every node is examined on its own. -/
theorem identities_unrepeated {seen : List String} {nodes : List Node} (once : Unrepeated nodes)
    (new : ∀ n ∈ nodes, n.id ≠ "" → n.id ∉ seen) :
    identityFindings seen nodes = nodes.filterMap (identityFinding? []) ∧
      soundNodes seen nodes = nodes.filter fun n => (identityFinding? [] n).isNone := by
  induction nodes generalizing seen with
  | nil => exact ⟨rfl, rfl⟩
  | cons node rest ih =>
    obtain ⟨once, other⟩ := unrepeated_cons once
    obtain ⟨first, later⟩ := List.forall_mem_cons.1 new
    unfold identityFindings soundNodes
    rw [identityFinding?_new first, List.filterMap_cons, List.filter_cons]
    cases found : identityFinding? [] node with
    | some finding =>
      obtain ⟨findings, sound⟩ := ih once later
      exact ⟨congrArg (finding :: ·) findings, sound⟩
    | none =>
      obtain ⟨findings, sound⟩ := ih once fun n mem given =>
        List.not_mem_cons_of_ne_of_not_mem (other n mem given) (later n mem given)
      exact ⟨findings, congrArg (node :: ·) sound⟩

theorem identities_listed {nodes nodes' : List Node} (once : Unrepeated nodes)
    (listed : nodes'.Perm nodes) :
    SameRules (identityFindings [] nodes) (identityFindings [] nodes') ∧
      (soundNodes [] nodes').Perm (soundNodes [] nodes) := by
  have once' : Unrepeated nodes' := (((listed.map Node.id).filter _).nodup_iff).2 once
  have unseen (ns : List Node) : ∀ n ∈ ns, n.id ≠ "" → n.id ∉ ([] : List String) :=
    fun _ _ _ => List.not_mem_nil
  obtain ⟨findings, sound⟩ := identities_unrepeated once (unseen nodes)
  obtain ⟨findings', sound'⟩ := identities_unrepeated once' (unseen nodes')
  rw [findings, findings', sound, sound']
  exact ⟨.filterMap listed fun _ => rfl, listed.filter _⟩

/-! ### All passes -/

theorem anchored_soundEdges (nodes : List Node) (edges : List Edge) :
    Anchored (soundNodes [] nodes) (soundEdges (soundNodes [] nodes) edges) := by
  rw [soundEdges_eq_filter fun n mem => (identified_of_mem_soundNodes mem).id]
  exact fun e mem => of_decide_eq_true (List.mem_filter.1 mem).2

/-- All findings, where the nodes of sound identity are the same in another order and as much is
wrong with the identities of the others. -/
theorem findings_listed {profile : Profile} {nodes nodes' : List Node} {edges edges' : List Edge}
    {found : List Finding} (run : findings profile nodes edges = .ok found)
    (linked : edges'.Perm edges) (empty : nodes' = [] ↔ nodes = [])
    (identities : SameRules (identityFindings [] nodes) (identityFindings [] nodes') ∧
      (soundNodes [] nodes').Perm (soundNodes [] nodes)) :
    ∃ found', findings profile nodes' edges' = .ok found' ∧ SameRules found found' := by
  by_cases none : nodes = []
  · rw [empty.2 none]
    rw [none] at run
    exact ⟨found, run, .refl _⟩
  · obtain ⟨settings, ran, rfl⟩ := findings_passes none run
    obtain ⟨identity, sound⟩ := identities
    obtain ⟨settings', ran', same⟩ := settings_listed sound ran
    have distinct := nodup_soundNodes nodes
    have links := soundEdges_listed linked sound
    have given' : nodes'.isEmpty = false := by
      rw [← Bool.not_eq_true, List.isEmpty_iff, empty]
      exact none
    simp only [findings, given', ran', Bool.false_eq_true, if_false]
    refine ⟨_, rfl, .append (.append (.append (.append (.append (.append (.append (.append identity
      (.ite (.append (naming_listed sound) (presence_listed sound))))
      (edges_listed linked sound distinct)) (branches_listed links sound profile))
      (meeting_listed links sound distinct)) (cycle_listed links (anchored_soundEdges nodes edges)
      (anchored_soundEdges nodes' edges'))) (orphans_listed links sound)) same)
      (.ite (references_listed sound))⟩

end Validation

theorem Report.codes_issues (catalog : Catalog) (found : List Finding) :
    Report.codes ⟨found.map catalog.issueOf⟩ = (found.map Finding.rule).map Rule.code := by
  simp only [Report.codes, List.map_map, Function.comp_def, Catalog.code_issueOf]

namespace Validator

open Validation

/-- As many issues of each code, in whatever order. -/
def SameCounts (report report' : Report) : Prop :=
  ∀ code, report'.codes.count code = report.codes.count code

theorem report_listed {v : Validator} {nodes nodes' : List Node} {edges edges' : List Edge}
    {report : Report} (run : v.report nodes edges = .ok report)
    (linked : edges'.Perm edges) (empty : nodes' = [] ↔ nodes = [])
    (identities : SameRules (identityFindings [] nodes) (identityFindings [] nodes') ∧
      (soundNodes [] nodes').Perm (soundNodes [] nodes)) :
    ∃ report', v.report nodes' edges' = .ok report' ∧ SameCounts report report' := by
  simp only [Validator.report] at run ⊢
  split at run
  · cases run
  · next found findings =>
    cases run
    obtain ⟨found', findings', same⟩ := findings_listed findings linked empty identities
    refine ⟨_, by rw [findings'], fun code => ?_⟩
    rw [Report.codes_issues, Report.codes_issues]
    exact (same.map Rule.code).count_eq code

/-- Where a report is made, it is also made with the edges in another order and, if no id is given
twice, with the nodes in another order, and no code has more or fewer issues there. -/
theorem counts_of_any_order {v : Validator} {nodes : List Node} {edges : List Edge}
    {report : Report} (run : v.report nodes edges = .ok report) {edges' : List Edge}
    (linked : edges'.Perm edges) :
    (∃ report', v.report nodes edges' = .ok report' ∧ SameCounts report report') ∧
      (Unrepeated nodes → ∀ nodes', nodes'.Perm nodes →
        ∃ report', v.report nodes' edges' = .ok report' ∧ SameCounts report report') := by
  constructor
  · exact report_listed run linked Iff.rfl ⟨.refl _, .refl _⟩
  · intro once nodes' listed
    refine report_listed run linked ?_ (identities_listed once listed)
    rw [← List.length_eq_zero_iff, ← List.length_eq_zero_iff, listed.length_eq]

/-- A cycle, a repeated edge and an edge to no node, beside two nodes without an id. -/
def looping : Workflow :=
  { nodes := [{ id := "i", type := "input" }, { id := "", type := "llm" },
      { id := "a", type := "branch" }, { id := "", type := "tool" }, { id := "b", type := "tool" },
      { id := "o", type := "output" }]
    edges := [{ source := "i", target := "a" }, { source := "a", target := "b" },
      { source := "b", target := "a" }, { source := "b", target := "o" },
      { source := "a", target := "b" }, { source := "a", target := "x" }] }

/-- From either end of the lists another edge closes the cycle, but one does. -/
theorem counts_of_any_order_looping :
    ∃ report, Validator.report {} looping.nodes looping.edges = .ok report ∧
      report.codes.count "FFV-STRUCT-001" = 1 ∧ ∃ report',
        Validator.report {} looping.nodes.reverse looping.edges.reverse = .ok report' ∧
          SameCounts report report' := by
  obtain ⟨found, run, -⟩ := structural_findings looping.nodes looping.edges
  have made : Validator.report {} looping.nodes looping.edges =
      .ok ⟨found.map Catalog.standard.issueOf⟩ := by
    simp only [Validator.report, run]
  refine ⟨_, made, ?_, ?_⟩
  · have codes : (Validator.report {} looping.nodes looping.edges).toOption.map
        (fun report => report.codes.count "FFV-STRUCT-001") = some 1 := by
      decide +kernel
    rw [made] at codes
    exact Option.some.inj codes
  · exact (counts_of_any_order made (List.reverse_perm _)).2 (by decide) _ (List.reverse_perm _)

end Validator

end WorkflowRepair
