import WorkflowRepair.Proofs.Validation.Nodes
import WorkflowRepair.Validation

/-!
When the validation comes to an end. Every rule examines any value, but for that on the temperature
of a language model: an integer has to fit a double there. Only the nodes of sound identity are
examined, and the more ids were seen before, the fewer these are.
-/

namespace WorkflowRepair.Validation

/-- The temperature can be examined: it is no integer, or one that a double holds. -/
def TemperatureFits (data : Members) : Prop :=
  ∀ i, Members.getD data "temperature" = .num (.int i) → Double.holdsInt i = true

/-- All that the rules of the profile examine among the nodes can be examined. -/
def Examinable (profile : Profile) (nodes : List Node) : Prop :=
  profile = .generated →
    ∀ n ∈ soundNodes [] nodes, n.isKind .llm = true → TemperatureFits n.data

theorem temperatureFindings_ok_iff {n : Node} :
    (∃ findings, temperatureFindings n = .ok findings) ↔ TemperatureFits n.data := by
  unfold TemperatureFits Members.getD temperatureFindings
  cases Members.get? n.data "temperature" with
  | none => simp
  | some value =>
    rcases value with - | b | number | s | items | members
    · simp [temperatureAccepted]
    · simp [temperatureAccepted]
    · cases number with
      | int i =>
        cases fits : Double.holdsInt i with
        | false => simp [temperatureAccepted, fits]
        | true =>
          cases inside : inUnitInterval (.int i) <;> simp [temperatureAccepted, fits, inside]
      | double d => cases inside : inUnitInterval (.double d) <;> simp [temperatureAccepted, inside]
    · simp [temperatureAccepted]
    · simp [temperatureAccepted]
    · simp [temperatureAccepted]

theorem llmFindings_ok_iff {n : Node} :
    (∃ findings, llmFindings n = .ok findings) ↔ TemperatureFits n.data := by
  rw [← temperatureFindings_ok_iff, llmFindings]
  cases temperatureFindings n <;> simp

theorem settingFindings_ok_iff {n : Node} :
    (∃ findings, settingFindings n = .ok findings) ↔
      (n.isKind .llm = true → TemperatureFits n.data) := by
  rw [← llmFindings_ok_iff, settingFindings, Node.isKind]
  rcases n.kind with - | (- | - | - | - | - | - | -) <;> simp

theorem nodeFindings_ok_iff {profile : Profile} {n : Node} :
    (∃ findings, nodeFindings profile n = .ok findings) ↔
      (profile = .generated → n.isKind .llm = true → TemperatureFits n.data) := by
  cases profile with
  | structural => simp [nodeFindings]
  | generated =>
    rw [← settingFindings_ok_iff, nodeFindings]
    cases settingFindings n <;> simp

theorem allNodeFindings_ok_iff {profile : Profile} {nodes : List Node} :
    (∃ findings, allNodeFindings profile nodes = .ok findings) ↔
      ∀ n ∈ nodes, ∃ findings, nodeFindings profile n = .ok findings := by
  induction nodes with
  | nil => simp [allNodeFindings]
  | cons node rest ih =>
    rw [List.forall_mem_cons, ← ih, allNodeFindings]
    cases nodeFindings profile node with
    | error fault => simp
    | ok here => cases allNodeFindings profile rest <;> simp

theorem findings_ok_iff {profile : Profile} {nodes : List Node} (edges : List Edge) :
    (∃ found, findings profile nodes edges = .ok found) ↔ Examinable profile nodes := by
  have settings : (∃ found, allNodeFindings profile (soundNodes [] nodes) = .ok found) ↔
      Examinable profile nodes := by
    simp only [allNodeFindings_ok_iff, nodeFindings_ok_iff, Examinable]
    constructor
    · intro each generated n sound
      exact each n sound generated
    · intro all n sound generated
      exact all generated n sound
  rw [← settings, findings]
  cases nodes with
  | nil => simp [soundNodes, allNodeFindings]
  | cons node rest =>
    simp only [List.isEmpty_cons, Bool.false_eq_true, if_false]
    cases allNodeFindings profile (soundNodes [] (node :: rest)) <;> simp

theorem report_ok_iff {v : Validator} {nodes : List Node} {edges : List Edge} :
    (∃ report, v.report nodes edges = .ok report) ↔ Examinable v.profile nodes := by
  rw [← findings_ok_iff edges, Validator.report]
  cases findings v.profile nodes edges <;> simp

theorem reportOn_ok_iff {v : Validator} {w : Workflow} :
    (∃ report, v.reportOn w = .ok report) ↔ Examinable v.profile w.nodes := report_ok_iff

theorem reportRaw_ok_iff {v : Validator} {nodes edges : Json} :
    (∃ report, v.reportRaw nodes edges = .ok report) ↔
      ∀ w, Workflow.ofRaw nodes edges = .ok w → Examinable v.profile w.nodes := by
  rw [Validator.reportRaw]
  cases Workflow.ofRaw nodes edges with
  | error e => simp
  | ok w => simp [reportOn_ok_iff]

/-! ### Nodes of sound identity -/

theorem mem_of_mem_soundNodes {seen : List String} {nodes : List Node} {n : Node}
    (h : n ∈ soundNodes seen nodes) : n ∈ nodes := by
  induction nodes generalizing seen with
  | nil => cases h
  | cons node rest ih =>
    unfold soundNodes at h
    split at h
    · exact List.mem_cons_of_mem _ (ih h)
    · rcases List.mem_cons.1 h with rfl | later
      · exact List.mem_cons_self
      · exact List.mem_cons_of_mem _ (ih later)

/-- The more ids were seen before, the fewer nodes are examined. -/
theorem soundNodes_subset {seen seen' : List String} {nodes : List Node} (more : seen ⊆ seen') :
    soundNodes seen' nodes ⊆ soundNodes seen nodes := by
  induction nodes generalizing seen seen' with
  | nil => exact List.Subset.refl _
  | cons node rest ih =>
    unfold soundNodes
    cases old' : identityFinding? seen' node with
    | none =>
      obtain ⟨named, new⟩ := identityFinding?_eq_none_iff.1 old'
      rw [identityFinding?_eq_none_iff.2 ⟨named, fun old => new (more old)⟩]
      exact List.cons_subset_cons _ (ih (List.cons_subset_cons _ more))
    | some finding =>
      cases old : identityFinding? seen node with
      | some finding' => exact ih more
      | none =>
        obtain ⟨named, new⟩ := identityFinding?_eq_none_iff.1 old
        have known : node.id ∈ seen' := by
          refine Decidable.byContradiction fun unknown => ?_
          rw [identityFinding?_eq_none_iff.2 ⟨named, unknown⟩] at old'
          cases old'
        exact List.subset_cons_of_subset _ (ih (List.cons_subset.2 ⟨known, more⟩))

theorem mem_of_mem_soundNodes_append {seen : List String} {before after : List Node} {n : Node}
    (h : n ∈ soundNodes seen (before ++ after)) :
    n ∈ soundNodes seen before ∨ n ∈ soundNodes seen after := by
  induction before generalizing seen with
  | nil => exact .inr h
  | cons node rest ih =>
    rw [List.cons_append] at h
    unfold soundNodes at h
    rw [soundNodes]
    cases found : identityFinding? seen node with
    | some finding =>
      rw [found] at h
      exact ih h
    | none =>
      rw [found] at h
      rcases List.mem_cons.1 h with rfl | later
      · exact .inl List.mem_cons_self
      · refine (ih later).imp (List.mem_cons_of_mem _) fun later => ?_
        exact soundNodes_subset (List.subset_cons_self _ _) later

/-- Nodes that are no language models add nothing that has to be examined so. -/
theorem Examinable.append {profile : Profile} {before nodes after : List Node}
    (h : Examinable profile nodes) (plain : ∀ n ∈ before, n.isKind .llm = false)
    (plain' : ∀ n ∈ after, n.isKind .llm = false) :
    Examinable profile (before ++ nodes ++ after) := by
  intro generated n sound llm
  rcases mem_of_mem_soundNodes_append sound with sound | added
  · rcases mem_of_mem_soundNodes_append sound with added | sound
    · rw [plain n (mem_of_mem_soundNodes added)] at llm
      cases llm
    · exact h generated n sound llm
  · rw [plain' n (mem_of_mem_soundNodes added)] at llm
    cases llm

end WorkflowRepair.Validation
