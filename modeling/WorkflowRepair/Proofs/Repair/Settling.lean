import WorkflowRepair.Proofs.Repair.Answers
import WorkflowRepair.Proofs.Repair.References
import WorkflowRepair.Proofs.Repair.Steady

/-!
Where all labels are ordinary, rounds of repair settle. After the first round the nodes change no
more: both ends are there, user input is filled in and the names in references are labels. From then
on a round settles the exits of branches, after mending the edges or without; whichever the second
round does, the third one comes to the same edges. So a repair of such a workflow ends with a round
that changes nothing, and a second repair leaves its result as it is.
-/

namespace WorkflowRepair

namespace Repair

variable {fixer : Fixer} {options : FixOptions} {nodes : List Node}

/-! ### Labels of new ends -/

/-- A fresh label is ordinary when the base has nothing else in it. -/
theorem ordinaryLabel_freshName {base : String} (used : List String)
    (h : base.toList.all OrdinaryLabel.isSolid = true) :
    OrdinaryLabel (freshName base "" used) :=
  ordinaryLabel_of_solid (all_freshName used (fun _ => isSolid_of_isDigit) h rfl)

theorem ordinaryLabels_of_face {nodes' : List Node}
    (same : nodes'.map Node.face = nodes.map Node.face) (h : OrdinaryLabels nodes) :
    OrdinaryLabels nodes' := by
  intro n' mem labelled
  have inside : n'.face ∈ nodes.map Node.face := same ▸ List.mem_map_of_mem mem
  obtain ⟨n, here, alike⟩ := List.mem_map.1 inside
  have label : n.label = n'.label := (Node.face_eq_iff.1 alike).2.2.2
  rw [← label]
  refine h n here ?_
  rw [Node.isLabelled, label]
  exact labelled

theorem ordinaryLabels_complete {w : Workflow} (h : OrdinaryLabels w.nodes) :
    OrdinaryLabels (complete w).workflow.nodes := by
  intro n mem labelled
  rcases mem_complete mem with old | added | added
  · exact h n old labelled
  · obtain ⟨id, used, rfl⟩ := exists_of_inputFor? added
    exact ordinaryLabel_freshName used (by decide)
  · obtain ⟨id, used, shown, rfl⟩ := exists_of_outputFor? added
    exact ordinaryLabel_freshName used (by decide)

/-! ### Nodes that need no preparation -/

/-- Both ends are there and user input is filled in, as far as the options ask for it. -/
structure Prepared (options : FixOptions) (nodes : List Node) : Prop where
  ends : options.addTerminals = true →
    nodes.any (·.isKind .input) = true ∧ nodes.any (·.isKind .output) = true
  filled : options.fillUserInput = true →
    ∀ text, userInput? nodes = some text → ∀ n ∈ nodes, ¬ n.LacksUserInput

theorem fillUserInput_eq_self {w : Workflow}
    (filled : ∀ text, userInput? w.nodes = some text → ∀ n ∈ w.nodes, ¬ n.LacksUserInput) :
    (fillUserInput w).1 = w := by
  have each : ∀ n ∈ w.nodes, fillNode (userInput? w.nodes) n = n := by
    intro n mem
    unfold fillNode
    cases given : userInput? w.nodes with
    | none => rfl
    | some text =>
      cases data : filledData? text n with
      | none => simp [data]
      | some _ => exact absurd (lacks_of_filledData? data) (filled text given n mem)
  have same : w.nodes.map (fillNode (userInput? w.nodes)) = w.nodes :=
    (List.map_congr_left each).trans (List.map_id _)
  rw [fillUserInput_eq, same]

theorem prepare_eq_self {w : Workflow} (h : Prepared options w.nodes) : prepare options w = w := by
  have completed : (if options.addTerminals then (complete w).workflow else w) = w := by
    split
    · next add => exact complete_eq_self (h.ends add).1 (h.ends add).2
    · rfl
  simp only [prepare, completed]
  split
  · next fill => exact fillUserInput_eq_self (h.filled fill)
  · rfl

theorem any_isKind_of_face {nodes' : List Node} (same : nodes'.map Node.face = nodes.map Node.face)
    (kind : NodeKind) : nodes'.any (·.isKind kind) = nodes.any (·.isKind kind) := by
  have faces (ns : List Node) :
      ns.any (·.isKind kind) = (ns.map Node.face).any (·.isKind kind) := by
    simp [List.any_map, Function.comp_def]
  rw [faces, same, ← faces]

theorem not_lacks_fillNode {text : String} (filled : Text.isBlankText text = false) (n : Node) :
    ¬ (fillNode (some text) n).LacksUserInput := by
  intro lacks
  unfold fillNode at lacks
  cases data : filledData? text n with
  | none =>
    simp only [data, Option.bind_some] at lacks
    rw [filledData?_of_lacks lacks text] at data
    cases data
  | some new =>
    have before := lacks_of_filledData? data
    rw [filledData?_of_lacks before text] at data
    simp only [filledData?_of_lacks before text, Option.bind_some] at lacks
    have missing := lacks.2
    rw [Node.mappings_withUserInput, Members.getD_set_self] at missing
    simp [Validation.isFilled, filled] at missing

theorem face_prepare (options : FixOptions) (w : Workflow) :
    (prepare options w).nodes.map Node.face =
      (if options.addTerminals then (complete w).workflow else w).nodes.map Node.face := by
  simp only [prepare]
  by_cases fill : options.fillUserInput = true
  · rw [if_pos fill]
    exact (kept_fillUserInput _).face
  · rw [if_neg fill]

theorem prepared_prepare (options : FixOptions) (w : Workflow) :
    Prepared options (prepare options w).nodes := by
  constructor
  · intro add
    have faces := face_prepare options w
    rw [if_pos add] at faces
    rw [any_isKind_of_face faces, any_isKind_of_face faces]
    exact any_isKind_complete w
  · intro fill text given n mem
    rw [userInput?_of_face (face_prepare options w)] at given
    simp only [prepare, if_pos fill, fillUserInput_eq, List.mem_map] at mem
    obtain ⟨m, -, rfl⟩ := mem
    rw [given]
    exact not_lacks_fillNode (isBlankText_userInput? given) m

theorem ordinaryLabels_prepare (options : FixOptions) {w : Workflow} (h : OrdinaryLabels w.nodes) :
    OrdinaryLabels (prepare options w).nodes := by
  refine ordinaryLabels_of_face (face_prepare options w) ?_
  split
  · exact ordinaryLabels_complete h
  · exact h

theorem rewords_wording (policy : FuzzyPolicy) (options : FixOptions) (nodes : List Node) :
    Json.Rewords (wording policy options nodes) := by
  unfold wording
  split
  · exact (Json.rewords_replace _).comp (Json.rewords_replace _)
  · exact Json.rewords_replace _

theorem Prepared.rewordNodes (h : Prepared options nodes) (policy : FuzzyPolicy) :
    Prepared options (rewordNodes policy options nodes) := by
  have faces : (Repair.rewordNodes policy options nodes).map Node.face = nodes.map Node.face :=
    map_face_mapTexts _ nodes
  constructor
  · intro add
    rw [any_isKind_of_face faces, any_isKind_of_face faces]
    exact h.ends add
  · intro fill text given n mem lacks
    rw [userInput?_of_face faces] at given
    obtain ⟨m, here, rfl⟩ := List.mem_map.1 mem
    have reworded := (rewords_wording policy options nodes).data m.data
    refine h.filled fill text given m here (Node.lacks_of_reworded ?_ reworded lacks)
    rfl

/-! ### Rounds -/

/-- The nodes after a round stay as they are, and its edges are settled. -/
theorem exists_of_leads {w w' : Workflow} (ordinary : OrdinaryLabels w.nodes)
    (h : Leads fixer options w w') :
    ∃ nodes edges, w' = ⟨nodes, settled nodes edges⟩ ∧ Prepared options nodes ∧
      rewordNodes fixer.policy options nodes = nodes := by
  obtain ⟨r, round, rfl⟩ := h
  obtain ⟨s, structural, result⟩ := round_eq_ok round
  have kept : s.workflow.nodes = (prepare options w).nodes := nodes_of_fixStructure structural
  have labels := ordinaryLabels_prepare options ordinary
  refine ⟨rewordNodes fixer.policy options (prepare options w).nodes, s.workflow.edges, ?_, ?_, ?_⟩
  · rw [result, ← kept, settled, ← edges_finish, ← nodes_finish]
  · exact (prepared_prepare options w).rewordNodes fixer.policy
  · exact rewordNodes_rewordNodes labels fixer.policy options

/-- A round on nodes that stay settles the exits, after mending the edges or without. -/
theorem settled_of_leads (prepared : Prepared options nodes)
    (worded : rewordNodes fixer.policy options nodes = nodes) {edges : List Edge} {w' : Workflow}
    (h : Leads fixer options ⟨nodes, edges⟩ w') :
    w' = ⟨nodes, settled nodes edges⟩ ∨
      w' = ⟨nodes, settled nodes (mended ⟨nodes, edges⟩).edges⟩ := by
  obtain ⟨r, round, rfl⟩ := h
  obtain ⟨s, structural, result⟩ := round_eq_ok round
  have ready : prepare options ⟨nodes, edges⟩ = ⟨nodes, edges⟩ := prepare_eq_self prepared
  have finished (w : Workflow) (same : w.nodes = nodes) :
      finish fixer.policy options w = ⟨nodes, settled nodes w.edges⟩ := by
    have nodes' := nodes_finish fixer.policy options w
    have edges' := edges_finish fixer.policy options w
    rw [same, worded] at nodes' edges'
    rw [settled, ← edges', ← nodes']
  rw [ready] at structural
  rw [result]
  rcases workflow_of_fixStructure structural with same | same
  · left
    rw [same]
    exact finished _ rfl
  · right
    rw [same]
    exact finished _ rfl

/-- The third round changes nothing. Where the second one stood still, the third is the second once
more; where the second one mended the edges, standing still and mending again come to the same. -/
theorem third_round {w w₁ w₂ w₃ : Workflow} (ordinary : OrdinaryLabels w.nodes)
    (first : Leads fixer options w w₁) (second : Leads fixer options w₁ w₂)
    (third : Leads fixer options w₂ w₃) : w₃ = w₂ := by
  obtain ⟨nodes, edges, rfl, prepared, worded⟩ := exists_of_leads ordinary first
  rcases settled_of_leads prepared worded second with same | same
  · rw [settled_settled] at same
    rw [same] at third ⊢
    exact third.unique (same ▸ second)
  · rw [same] at third ⊢
    rcases settled_of_leads prepared worded third with same' | same'
    · rw [same', settled_settled]
    · rw [same', settled_mended_settled_mended]

/-- Three rounds and more lead to a workflow that a further one leaves as it is. -/
theorem LeadsIn.settles {n : Nat} {w w' : Workflow} (h : LeadsIn fixer options (n + 3) w w')
    (ordinary : OrdinaryLabels w.nodes) : Leads fixer options w' w' := by
  obtain _ | ⟨first, _ | ⟨second, _ | ⟨third, rest⟩⟩⟩ := h
  obtain rfl := third_round ordinary first second third
  obtain rfl := rest.unique (third.stays n)
  exact third

/-- Rounds that end, after so many, with one that changes nothing. -/
inductive StopsIn (fixer : Fixer) (options : FixOptions) : Nat → Round → Round → Prop
  | now {current next : Round} : round fixer options current.workflow = .ok next →
      next.workflow = current.workflow →
      StopsIn fixer options 1 current { current with findings := next.findings }
  | later {n : Nat} {current next last : Round} : round fixer options current.workflow = .ok next →
      next.workflow ≠ current.workflow →
      StopsIn fixer options n { next with fixes := current.fixes ++ next.fixes } last →
      StopsIn fixer options (n + 1) current last

theorem stopsIn_or_more {n : Nat} {current last : Round}
    (h : rounds fixer options (n + 1) current = .ok last) :
    StopsIn fixer options 1 current last ∨
      ∃ next, round fixer options current.workflow = .ok next ∧
        next.workflow ≠ current.workflow ∧
        rounds fixer options n { next with fixes := current.fixes ++ next.fixes } = .ok last := by
  rw [rounds] at h
  cases run : round fixer options current.workflow with
  | error fault => simp [run] at h
  | ok next =>
    simp only [run] at h
    split at h
    · next same =>
      cases h
      exact .inl (.now run same)
    · next differs => exact .inr ⟨next, rfl, differs, h⟩

/-- Where all labels are ordinary, the third round of a repair changes nothing, so its rounds end
with one that changes nothing before their limit is reached. -/
theorem rounds_stop (fixer : Fixer) (options : FixOptions) (w : Workflow)
    (ordinary : OrdinaryLabels w.nodes) :
    (∀ w₁ w₂ w₃, Leads fixer options w w₁ → Leads fixer options w₁ w₂ →
      Leads fixer options w₂ w₃ → w₃ = w₂) ∧
    ∀ last, rounds fixer options roundLimit ⟨w, [], []⟩ = .ok last →
      ∃ n < roundLimit, StopsIn fixer options n ⟨w, [], []⟩ last := by
  refine ⟨fun w₁ w₂ w₃ => third_round ordinary, fun last run => ?_⟩
  rcases stopsIn_or_more run with stops | ⟨r₁, first, differs₁, run₁⟩
  · exact ⟨1, by decide, stops⟩
  rcases stopsIn_or_more run₁ with stops | ⟨r₂, second, differs₂, run₂⟩
  · exact ⟨2, by decide, .later first differs₁ stops⟩
  rcases stopsIn_or_more run₂ with stops | ⟨r₃, third, differs₃, -⟩
  · exact ⟨3, by decide, .later first differs₁ (.later second differs₂ stops)⟩
  · exact absurd (third_round ordinary ⟨r₁, first, rfl⟩ ⟨r₂, second, rfl⟩ ⟨r₃, third, rfl⟩) differs₃

theorem rounds_stop_unfilled :
    OrdinaryLabels unfilled.nodes ∧
      (∀ w₃, Leads ⟨{}, {}⟩ {} filled w₃ → w₃ = filled) ∧
      ∃ last, rounds ⟨{}, {}⟩ {} roundLimit ⟨unfilled, [], []⟩ = .ok last ∧
        ∃ n < roundLimit, StopsIn ⟨{}, {}⟩ {} n ⟨unfilled, [], []⟩ last := by
  have ordinary : OrdinaryLabels unfilled.nodes := by
    intro n mem _
    have cases : n.label = "Question" ∨ n.label = "Answer" := by
      rcases List.mem_cons.1 mem with rfl | mem
      · exact .inl rfl
      · rw [List.mem_singleton] at mem
        exact .inr (mem ▸ rfl)
    rcases cases with same | same
    · rw [same]
      exact ordinaryLabel_of_solid (by decide)
    · rw [same]
      exact ordinaryLabel_of_solid (by decide)
  obtain ⟨third, stops⟩ := rounds_stop ⟨{}, {}⟩ {} unfilled ordinary
  obtain ⟨last, run, -⟩ := rounds_of_leads ⟨unfilled, [], []⟩ leads_unfilled leads_filled 2
  exact ⟨ordinary, fun w₃ => third _ _ w₃ leads_unfilled leads_filled, last, run, stops last run⟩

end Repair

/-- Where all labels are ordinary, the result of a repair is repaired to itself. -/
theorem Fixer.fix_again_of_ordinary {fixer : Fixer} {options : FixOptions} {w : Workflow}
    {first : FixOutcome} (ordinary : Repair.OrdinaryLabels w.nodes)
    (once : fixer.fix options w = .ok first) :
    ∃ second, fixer.fix options first.workflow = .ok second ∧
      second.workflow = first.workflow := by
  have examinable := Validation.reportOn_ok_iff.1 ⟨_, reportOn_fix once⟩
  obtain ⟨second, again⟩ : ∃ second, fixer.fix options first.workflow = .ok second :=
    fix_ok_iff.2 examinable
  refine ⟨second, again, ?_⟩
  rcases workflow_of_fix once with ⟨same, -⟩ | leads
  · rw [same, once] at again
    cases again
    rfl
  · have stays := Repair.LeadsIn.settles (n := 1) leads ordinary
    exact workflow_of_leadsIn_self again (stays.stays Repair.roundLimit)

end WorkflowRepair
