import Mathlib.Data.List.Nodup
import WorkflowRepair.Validation

/-!
Which rules each pass of the validation can report. The passes have no rule in common, so a rule
that is reported tells which of them found something.
-/

namespace WorkflowRepair

namespace Rule

def all : List Rule := [.noNodes, .notArrays, .nodeIdentity, .duplicateId, .missingLabel,
  .duplicateLabel, .reservedLabel, .unknownType, .edgeEnds, .cycle, .unknownEndpoint,
  .duplicateEdge, .orphan, .branchExits, .branchHandles, .strayHandle, .branchesMeet,
  .branchCondition, .retrieval, .noInput, .noOutput, .llmSettings, .llmInput, .toolType,
  .outputMode, .outputSources, .inputForm, .unresolvedReference]

theorem mem_all (rule : Rule) : rule ∈ all := by
  cases rule <;> decide

/-- A code tells its rule. -/
theorem code_inj {a b : Rule} (same : a.code = b.code) : a = b := by
  have distinct : (all.map code).Nodup := by decide +kernel
  exact List.inj_on_of_nodup_map distinct (mem_all a) (mem_all b) same

end Rule

namespace Finding

@[simp] theorem rule_onGraph (rule : Rule) : (onGraph rule).rule = rule := rfl

@[simp] theorem rule_onNode (rule : Rule) (id : String) (hint : Option String) :
    (onNode rule id hint).rule = rule := rfl

@[simp] theorem rule_onField (rule : Rule) (id path : String) (hint : Option String) :
    (onField rule id path hint).rule = rule := rfl

@[simp] theorem rule_onEdge (rule : Rule) (edge : Edge) (hint : Option String) :
    (onEdge rule edge hint).rule = rule := rfl

@[simp] theorem rule_onExit (rule : Rule) (edge : Edge) (path hint : Option String) :
    (onExit rule edge path hint).rule = rule := rfl

end Finding

@[simp] theorem Catalog.code_issueOf (catalog : Catalog) (f : Finding) :
    (catalog.issueOf f).code = f.rule.code := rfl

/-- A report has the code of a rule exactly when something was found on the rule. -/
theorem Report.has_code_iff {catalog : Catalog} {found : List Finding} {rule : Rule} :
    Report.has ⟨found.map catalog.issueOf⟩ rule.code = true ↔ ∃ f ∈ found, f.rule = rule := by
  rw [has, List.any_map, List.any_eq_true]
  constructor
  · rintro ⟨f, mem, same⟩
    exact ⟨f, mem, Rule.code_inj (of_decide_eq_true same)⟩
  · rintro ⟨f, mem, rfl⟩
    exact ⟨f, mem, decide_eq_true rfl⟩

theorem Report.has_eq_false_iff {report : Report} {code : String} :
    report.has code = false ↔ report.codes.count code = 0 := by
  simp [has, codes, List.count_eq_zero, List.any_eq_false]

theorem Validator.exists_valid {v : Validator} {nodes : List Node} {edges : List Edge}
    (h : (v.report nodes edges).toOption.map Report.isValid = some true) :
    ∃ report, v.report nodes edges = .ok report ∧ report.isValid = true := by
  cases run : v.report nodes edges with
  | error fault =>
    rw [run] at h
    cases h
  | ok report =>
    rw [run] at h
    exact ⟨report, rfl, Option.some.inj h⟩

namespace Validation

/-- All findings are on the given rules. -/
def Reports (rules : List Rule) (found : List Finding) : Prop := ∀ f ∈ found, f.rule ∈ rules

namespace Reports

variable {rules rules' : List Rule} {found found' : List Finding}

theorem nil : Reports rules [] := List.forall_mem_nil _

theorem one {f : Finding} (h : f.rule ∈ rules) : Reports rules [f] := List.forall_mem_singleton.2 h

theorem mono (h : Reports rules found) (more : rules ⊆ rules') : Reports rules' found :=
  fun f mem => more (h f mem)

theorem append (h : Reports rules found) (h' : Reports rules found') :
    Reports rules (found ++ found') :=
  List.forall_mem_append.2 ⟨h, h'⟩

theorem flatMap {α : Type} {items : List α} {check : α → List Finding}
    (h : ∀ a ∈ items, Reports rules (check a)) : Reports rules (items.flatMap check) := by
  intro f mem
  obtain ⟨a, here, mem⟩ := List.mem_flatMap.1 mem
  exact h a here f mem

theorem map {α : Type} {items : List α} {finding : α → Finding}
    (h : ∀ a ∈ items, (finding a).rule ∈ rules) : Reports rules (items.map finding) := by
  intro f mem
  obtain ⟨a, here, rfl⟩ := List.mem_map.1 mem
  exact h a here

theorem filterMap {α : Type} {items : List α} {check : α → Option Finding}
    (h : ∀ a ∈ items, ∀ f, check a = some f → f.rule ∈ rules) :
    Reports rules (items.filterMap check) := by
  intro f mem
  obtain ⟨a, here, found⟩ := List.mem_filterMap.1 mem
  exact h a here f found

/-- A pass that reports something under a condition only. -/
theorem ite {p : Prop} [Decidable p] (h : p → Reports rules found)
    (h' : ¬ p → Reports rules found') : Reports rules (if p then found else found') := by
  split
  · next holds => exact h holds
  · next fails => exact h' fails

theorem filter_eq_nil (h : Reports rules found) (rule : Rule) (other : rule ∉ rules) :
    found.filter (·.rule = rule) = [] := by
  refine List.filter_eq_nil_iff.2 fun f mem same => other ?_
  rw [← of_decide_eq_true same]
  exact h f mem

theorem filter_eq_self {rule : Rule} (h : Reports [rule] found) :
    found.filter (·.rule = rule) = found :=
  List.filter_eq_self.2 fun f mem => decide_eq_true (List.mem_singleton.1 (h f mem))

end Reports

/-! ### Nodes -/

theorem reports_identity (seen : List String) (nodes : List Node) :
    Reports [.nodeIdentity, .duplicateId] (identityFindings seen nodes) := by
  induction nodes generalizing seen with
  | nil => exact .nil
  | cons node rest ih =>
    unfold identityFindings
    cases found : identityFinding? seen node with
    | none => exact ih _
    | some finding =>
      refine List.forall_mem_cons.2 ⟨?_, ih _⟩
      unfold identityFinding? at found
      split at found
      · cases found
        simp
      · split at found
        · cases found
          simp
        · split at found
          · cases found
            simp
          · cases found

theorem reports_naming (nodes : List Node) :
    Reports [.unknownType, .missingLabel, .reservedLabel, .duplicateLabel]
      (namingFindings nodes) := by
  refine .append (.flatMap fun node _ => ?_) (.flatMap fun label _ => ?_)
  · refine .append (.ite (fun _ => .one ?_) fun _ => .nil) (.ite (fun _ => .nil) fun _ => .one ?_)
    · simp
    · simp
  · refine .append (.ite (fun _ => .map fun _ _ => ?_) fun _ => .nil) ?_
    · simp
    · split
      · exact .one (by simp)
      · exact .nil

theorem reports_presence (nodes : List Node) :
    Reports [.noInput, .noOutput] (presenceFindings nodes) := by
  refine .append (.ite (fun _ => .nil) fun _ => .one ?_) (.ite (fun _ => .nil) fun _ => .one ?_)
  · simp
  · simp

/-! ### Edges and the graph -/

theorem reports_endpoints (nodes : List Node) (edges : List Edge) :
    Reports [.edgeEnds, .unknownEndpoint] (edges.filterMap (endpointFinding? nodes)) := by
  refine .filterMap fun edge _ f found => ?_
  unfold endpointFinding? at found
  split at found
  · cases found
    simp
  · split at found
    · cases found
      simp
    · split at found
      · cases found
        simp
      · cases found

theorem reports_connections (nodes : List Node) (seen : List (String × String))
    (edges : List Edge) :
    Reports [.duplicateEdge, .strayHandle] (connectionFindings nodes seen edges) := by
  induction edges generalizing seen with
  | nil => exact .nil
  | cons edge rest ih =>
    refine .append (.append (.ite (fun _ => .one ?_) fun _ => .nil)
      (.ite (fun _ => .one ?_) fun _ => .nil)) (ih _)
    · simp
    · simp

theorem reports_edges (nodes : List Node) (edges : List Edge) :
    Reports [.edgeEnds, .unknownEndpoint, .duplicateEdge, .strayHandle]
      (edgeFindings nodes edges) :=
  .append ((reports_endpoints nodes edges).mono (by decide))
    ((reports_connections nodes [] _).mono (by decide))

theorem reports_exits (edges : List Edge) (node : Node) :
    Reports [.branchExits, .branchHandles] (exitFindings edges node) := by
  refine .ite (fun _ => .one ?_) fun _ => .ite (fun _ => .one ?_) fun _ => .nil
  · simp
  · simp

theorem reports_condition (node : Node) : Reports [.branchCondition] (conditionFindings node) :=
  .ite (fun _ => .nil) fun _ => .one (by simp)

theorem reports_branches (profile : Profile) (nodes : List Node) (edges : List Edge) :
    Reports [.branchExits, .branchHandles, .branchCondition]
      (branchFindings profile nodes edges) := by
  refine .flatMap fun node _ => .append ((reports_exits edges node).mono (by decide)) ?_
  exact .ite (fun _ => (reports_condition node).mono (by decide)) fun _ => .nil

theorem reports_meeting (nodes : List Node) (edges : List Edge) :
    Reports [.branchesMeet] (meetingFindings nodes edges) := by
  refine .filterMap fun target _ f found => ?_
  split at found
  · cases found
  · obtain ⟨id, -, rfl⟩ := Option.map_eq_some_iff.1 found
    simp

theorem reports_cycle (nodes : List Node) (edges : List Edge) :
    Reports [.cycle] (cycleFindings nodes edges) := by
  unfold cycleFindings
  split
  · exact .one (by simp)
  · exact .nil

theorem reports_orphans (nodes : List Node) (edges : List Edge) :
    Reports [.orphan] (orphanFindings nodes edges) := by
  unfold orphanFindings
  split
  · exact .nil
  · exact .map fun _ _ => by simp

/-! ### Settings and references -/

theorem reports_retrieval (node : Node) : Reports [.retrieval] (retrievalFindings node) :=
  .ite (fun _ => .one (by simp)) fun _ => .nil

/-- The rules on the settings of nodes of generated workflows. -/
def settingRules : List Rule :=
  [.llmSettings, .llmInput, .toolType, .outputMode, .outputSources, .inputForm]

theorem reports_llm {node : Node} {found : List Finding} (h : llmFindings node = .ok found) :
    Reports [.llmSettings, .llmInput] found := by
  have texts : Reports [.llmSettings, .llmInput] (textSettingFindings node) := by
    refine .filterMap fun key _ f found => ?_
    split at found
    · cases found
    · cases found
    · cases found
      simp
  have input : Reports [.llmSettings, .llmInput] (userInputFindings node) :=
    .ite (fun _ => .nil) fun _ => .one (by simp)
  have format : Reports [.llmSettings, .llmInput] (responseFormatFindings node) := by
    unfold responseFormatFindings
    split
    · exact .nil
    · exact .nil
    · exact .nil
    · exact .one (by simp)
  unfold llmFindings at h
  split at h
  · cases h
  · next temperature examined =>
    cases h
    refine .append (.append (.append texts input) ?_) format
    unfold temperatureFindings at examined
    split at examined
    · cases examined
      exact .nil
    · split at examined
      · cases examined
      · cases examined
        exact .nil
      · cases examined
        exact .one (by simp)

theorem reports_output (node : Node) :
    Reports [.outputMode, .outputSources] (outputFindings node) := by
  refine .ite (fun _ => .one ?_) fun _ => ?_
  · simp
  · split
    · exact .ite (fun _ => .nil) fun _ => .one (by simp)
    · exact .ite (fun _ => .nil) fun _ => .one (by simp)
    · exact .ite (fun _ => .one (by simp)) fun _ => .nil
    · exact .ite (fun _ => .one (by simp)) fun _ => .nil
    · exact .one (by simp)

theorem reports_fields (id : String) (place : Nat) (fields : List Json) :
    Reports [.inputForm] (fieldFindings id place fields) := by
  induction fields generalizing place with
  | nil => exact .nil
  | cons field rest ih => exact .ite (fun _ => ih _) fun _ => .one (by simp)

theorem reports_form (node : Node) : Reports [.inputForm] (formFindings node) := by
  refine .ite (fun _ => ?_) fun _ => .nil
  split
  · exact .one (by simp)
  · exact reports_fields node.id 0 _

theorem reports_upload (node : Node) : Reports [.inputForm] (uploadFindings node) := by
  refine .ite (fun _ => ?_) fun _ => .nil
  refine .append (.append (.ite (fun _ => .one ?_) fun _ => .nil)
    (.ite (fun _ => .nil) fun _ => .one ?_)) (.ite (fun _ => .nil) fun _ => .one ?_)
  · simp
  · simp
  · simp

theorem reports_settings {node : Node} {found : List Finding}
    (h : settingFindings node = .ok found) : Reports settingRules found := by
  unfold settingFindings at h
  split at h
  · exact (reports_llm h).mono (by decide)
  · cases h
    exact .ite (fun _ => .nil) fun _ => .one (by simp [settingRules])
  · cases h
    exact (reports_output node).mono (by decide)
  · cases h
    exact ((reports_form node).append (reports_upload node)).mono (by decide)
  · cases h
    exact .nil

theorem reports_node {profile : Profile} {node : Node} {found : List Finding}
    (h : nodeFindings profile node = .ok found) : Reports (.retrieval :: settingRules) found := by
  have retrieval : Reports (.retrieval :: settingRules) (retrievalFindings node) :=
    (reports_retrieval node).mono (by simp)
  unfold nodeFindings at h
  cases profile with
  | structural =>
    exact Except.ok.inj h ▸ retrieval
  | generated =>
    dsimp only at h
    split at h
    · cases h
    · next settings =>
      rw [← Except.ok.inj h]
      exact retrieval.append ((reports_settings settings).mono (List.subset_cons_self _ _))

theorem reports_allNodes {profile : Profile} {nodes : List Node} {found : List Finding}
    (h : allNodeFindings profile nodes = .ok found) :
    Reports (.retrieval :: settingRules) found := by
  induction nodes generalizing found with
  | nil =>
    cases h
    exact .nil
  | cons node rest ih =>
    unfold allNodeFindings at h
    split at h
    · cases h
    · next first =>
      split at h
      · cases h
      · next later =>
        cases h
        exact (reports_node first).append (ih later)

theorem reports_references (nodes : List Node) :
    Reports [.unresolvedReference] (referenceFindings nodes) :=
  .flatMap fun _ _ => .flatMap fun _ _ => .map fun _ _ => by simp

/-! ### All passes -/

/-- What is found in a workflow with nodes, pass by pass. -/
theorem findings_passes {profile : Profile} {nodes : List Node} {edges : List Edge}
    {found : List Finding} (given : nodes ≠ []) (run : findings profile nodes edges = .ok found) :
    ∃ settings, allNodeFindings profile (soundNodes [] nodes) = .ok settings ∧
      identityFindings [] nodes
        ++ (if profile = .generated then
            namingFindings (soundNodes [] nodes) ++ presenceFindings (soundNodes [] nodes) else [])
        ++ edgeFindings (soundNodes [] nodes) edges
        ++ branchFindings profile (soundNodes [] nodes) (soundEdges (soundNodes [] nodes) edges)
        ++ meetingFindings (soundNodes [] nodes) (soundEdges (soundNodes [] nodes) edges)
        ++ cycleFindings (soundNodes [] nodes) (soundEdges (soundNodes [] nodes) edges)
        ++ orphanFindings (soundNodes [] nodes) (soundEdges (soundNodes [] nodes) edges)
        ++ settings
        ++ (if profile = .generated then referenceFindings (soundNodes [] nodes) else []) =
          found := by
  simp only [findings, List.isEmpty_iff, given, if_false] at run
  split at run
  · cases run
  · next settings ran => exact ⟨settings, ran, Except.ok.inj run⟩

/-- The passes over a workflow with nodes, each beside the rules that it can report. -/
def passes (profile : Profile) (nodes : List Node) (edges : List Edge) (settings : List Finding) :
    List (List Rule × List Finding) :=
  let sound := soundNodes [] nodes
  let links := soundEdges sound edges
  [([.nodeIdentity, .duplicateId], identityFindings [] nodes),
    ([.unknownType, .missingLabel, .reservedLabel, .duplicateLabel, .noInput, .noOutput],
      if profile = .generated then namingFindings sound ++ presenceFindings sound else []),
    ([.edgeEnds, .unknownEndpoint, .duplicateEdge, .strayHandle], edgeFindings sound edges),
    ([.branchExits, .branchHandles, .branchCondition], branchFindings profile sound links),
    ([.branchesMeet], meetingFindings sound links),
    ([.cycle], cycleFindings sound links),
    ([.orphan], orphanFindings sound links),
    (.retrieval :: settingRules, settings),
    ([.unresolvedReference], if profile = .generated then referenceFindings sound else [])]

theorem reports_passes {profile : Profile} {nodes : List Node} {settings : List Finding}
    (ran : allNodeFindings profile (soundNodes [] nodes) = .ok settings) (edges : List Edge) :
    ∀ pass ∈ passes profile nodes edges settings, Reports pass.1 pass.2 := by
  simp only [passes, List.forall_mem_cons]
  refine ⟨reports_identity _ _, .ite (fun _ => ?_) fun _ => .nil, reports_edges _ _,
    reports_branches _ _ _, reports_meeting _ _, reports_cycle _ _, reports_orphans _ _,
    reports_allNodes ran, .ite (fun _ => reports_references _) fun _ => .nil,
    List.forall_mem_nil _⟩
  exact .append ((reports_naming _).mono (by decide)) ((reports_presence _).mono (by decide))

/-- What is found on a rule comes from the passes that can report it. -/
theorem filter_flatMap_passes {passes : List (List Rule × List Finding)}
    (reports : ∀ pass ∈ passes, Reports pass.1 pass.2) (rule : Rule) :
    (passes.flatMap Prod.snd).filter (·.rule = rule) =
      ((passes.filter (rule ∈ ·.1)).flatMap Prod.snd).filter (·.rule = rule) := by
  induction passes with
  | nil => rfl
  | cons pass rest ih =>
    obtain ⟨here, later⟩ := List.forall_mem_cons.1 reports
    rw [List.flatMap_cons, List.filter_append, ih later, List.filter_cons]
    by_cases own : rule ∈ pass.1
    · rw [if_pos (decide_eq_true own), List.flatMap_cons, List.filter_append]
    · rw [if_neg (by simpa using own), here.filter_eq_nil rule own, List.nil_append]

theorem filter_findings {profile : Profile} {nodes : List Node} {edges : List Edge}
    {found : List Finding} (given : nodes ≠ []) (run : findings profile nodes edges = .ok found)
    (rule : Rule) :
    ∃ settings, found.filter (·.rule = rule) =
      (((passes profile nodes edges settings).filter (rule ∈ ·.1)).flatMap Prod.snd).filter
        (·.rule = rule) := by
  obtain ⟨settings, ran, whole⟩ := findings_passes given run
  have parts : (passes profile nodes edges settings).flatMap Prod.snd = found := by
    rw [← whole]
    simp only [passes, List.flatMap_cons, List.flatMap_nil, List.append_nil, List.append_assoc]
  refine ⟨settings, ?_⟩
  rw [← parts]
  exact filter_flatMap_passes (reports_passes ran edges) rule

/-- The issues with the code of a rule are the findings on the rule, in the words of the catalog. -/
theorem issues_of_rule (catalog : Catalog) (found : List Finding) (rule : Rule) :
    (found.map catalog.issueOf).filter (·.code = rule.code) =
      (found.filter (·.rule = rule)).map catalog.issueOf := by
  rw [List.filter_map]
  refine congrArg (List.map _) (List.filter_congr fun f _ => ?_)
  refine decide_eq_decide.2 ⟨fun same => Rule.code_inj same, fun same => ?_⟩
  rw [Catalog.code_issueOf, same]

end Validation

end WorkflowRepair
