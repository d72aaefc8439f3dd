import WorkflowRepair.Proofs.Repair.Again
import WorkflowRepair.Proofs.Repair.BothExits
import WorkflowRepair.Proofs.Repair.FilledReferences
import WorkflowRepair.Proofs.Repair.Healed

/-!
Repairs that tell no fix. Each repair counts what it does in a way of its own, but none changes
anything without counting it: a round that tells no fix leaves its workflow as it is, and so does
every run of rounds. A structural repair tells a fix exactly when it changes an edge, because what
is mended has no flaw left and so differs from what had one.
-/

namespace WorkflowRepair

/-! ### Texts that stay -/

namespace Json

variable {f : String → String}

mutual

theorem mapTexts_eq_self : (j : Json) → (∀ s ∈ j.texts, f s = s) → j.mapTexts f = j
  | .str s, same => congrArg Json.str (same s (List.mem_singleton_self s))
  | .obj members, same => congrArg Json.obj (mapTextsMembers_eq_self members same)
  | .arr items, same => congrArg Json.arr (mapTextsItems_eq_self items same)
  | .null, _ | .bool _, _ | .num _, _ => rfl

theorem mapTextsMembers_eq_self : (members : List (String × Json)) →
    (∀ s ∈ textsOfMembers members, f s = s) → mapTextsMembers f members = members
  | [], _ => rfl
  | (key, j) :: rest, same => by
    obtain ⟨first, later⟩ := List.forall_mem_append.1 same
    rw [mapTextsMembers, mapTexts_eq_self j first, mapTextsMembers_eq_self rest later]

theorem mapTextsItems_eq_self : (items : List Json) →
    (∀ s ∈ textsOfItems items, f s = s) → mapTextsItems f items = items
  | [], _ => rfl
  | j :: rest, same => by
    obtain ⟨first, later⟩ := List.forall_mem_append.1 same
    rw [mapTextsItems, mapTexts_eq_self j first, mapTextsItems_eq_self rest later]

end

end Json

theorem Members.mapTexts_eq_self {f : String → String} {data : Members}
    (same : ∀ s ∈ data.texts, f s = s) : data.mapTexts f = data := by
  have each : ∀ m ∈ data, (if m.1 = "label" then m else (m.1, m.2.mapTexts f)) = m := by
    intro m mem
    split
    · rfl
    · next other =>
      have value : m.2.mapTexts f = m.2 := Json.mapTexts_eq_self m.2 fun s inside =>
        same s (List.mem_flatMap.2 ⟨m, List.mem_filter.2 ⟨mem, by simpa using other⟩, inside⟩)
      rw [value]
  exact (List.map_congr_left each).trans (List.map_id _)

namespace Repair

variable {w : Workflow} {fixer : Fixer} {options : FixOptions}

/-! ### References -/

/-- Where none of the templates has a reference that is replaced, all nodes stay, since other texts
have no reference. -/
theorem replaceReferences_eq_self {newName : Reference → Option String}
    (none : ∀ n ∈ w.nodes, ∀ field ∈ TextField.templates n.data, Leaves newName field.value) :
    replaceReferences newName w = w := by
  have each : ∀ n ∈ w.nodes,
      { n with data := Members.mapTexts (Template.replace newName) n.data } = n := by
    intro n mem
    have data : Members.mapTexts (Template.replace newName) n.data = n.data := by
      refine Members.mapTexts_eq_self fun s inside => ?_
      rw [← TextField.values_all] at inside
      obtain ⟨field, here, rfl⟩ := List.mem_map.1 inside
      by_cases template : field.isTemplate = true
      · exact (none n mem field (List.mem_filter.2 ⟨here, template⟩)).replace_eq
      · rcases Template.replace_cases newName field.value with same | ⟨some, -⟩
        · exact same
        · obtain ⟨r, listed⟩ := List.exists_mem_of_ne_nil _ some
          exact absurd (Template.isTemplate_of_reference listed) template
    rw [data]
  rw [replaceReferences, (List.map_congr_left each).trans (List.map_id _)]

theorem healReferences_eq_self {policy : FuzzyPolicy}
    (untold : fixTexts true (referenceDefects policy w) = []) : healReferences policy w = w := by
  refine replaceReferences_eq_self fun n mem field inside piece here => ?_
  cases read : piece.reference? with
  | none => rfl
  | some r =>
    rw [Option.bind_some]
    cases matched : matchName? policy w.nodes r.name with
    | none => rw [healed?, matched]; rfl
    | some found =>
      have defect : ⟨n.id, field.path, r, found⟩ ∈ fieldDefects policy w.nodes n.id field :=
        List.mem_filterMap.2 ⟨r, Template.mem_references here read, by rw [matched]; rfl⟩
      have unmended : (⟨n.id, field.path, r, found⟩ : ReferenceDefect).replacement? = none := by
        have all := List.filterMap_eq_nil_iff.1 untold _
          (List.mem_flatMap.2 ⟨n, mem, List.mem_flatMap.2 ⟨field, inside, defect⟩⟩)
        exact Option.map_eq_none_iff.1 all
      have alike := isNone_replacement? defect
      rw [unmended] at alike
      exact Option.isNone_iff_eq_none.1 alike.symm

/-- The count of a workflow is the sum of those of its templates. -/
theorem replaceCount_eq_sum (newName : Reference → Option String) (w : Workflow) :
    replaceCount newName w = ((w.nodes.flatMap fun n => TextField.templates n.data).map fun field =>
      Template.replaceCount newName field.value).sum := by
  rw [List.sum_eq_foldl, List.foldl_map]
  rfl

theorem replaceReferences_of_count {newName : Reference → Option String}
    (uncounted : replaceCount newName w = 0) : replaceReferences newName w = w := by
  refine replaceReferences_eq_self fun n mem field inside piece here => ?_
  rw [replaceCount_eq_sum, List.sum_eq_zero_iff] at uncounted
  have count : Template.replaceCount newName field.value = 0 :=
    uncounted _ (List.mem_map_of_mem (List.mem_flatMap.2 ⟨n, mem, inside⟩))
  simpa using List.countP_eq_zero.1 count piece here

/-! ### Ends, user input and exits -/

theorem complete_eq_self_of_fixes (untold : (complete w).fixes = []) :
    (complete w).workflow = w := by
  obtain ⟨input, output⟩ := List.append_eq_nil_iff.1 untold
  have noInput : inputFor? w = none := by simpa using input
  have noOutput : outputFor? w (inputFor? w) = none := by simpa using output
  simp [complete, noInput, connectInput, noInput ▸ noOutput, connectOutput]

theorem fillUserInput_of_count (uncounted : (fillUserInput w).2 = 0) :
    (fillUserInput w).1 = w := by
  rw [fillUserInput_count, List.countP_eq_zero] at uncounted
  have each : ∀ n ∈ w.nodes, fillNode (userInput? w.nodes) n = n := by
    intro n mem
    have unfilled := uncounted n mem
    rw [isFilledIn, Option.not_isSome_iff_eq_none] at unfilled
    rw [fillNode, unfilled]
  rw [fillUserInput_eq, (List.map_congr_left each).trans (List.map_id _)]

theorem TellsChanges.eq_of_nil {before after : List Edge} (h : TellsChanges before after []) :
    after = before := by
  obtain ⟨entries, none, -, places, -⟩ := h
  rw [List.map_eq_nil_iff] at none
  subst none
  refine List.ext_getElem? fun p => ?_
  by_contra changed
  cases (places p).2 changed

theorem settleExits_eq_self (untold : (settleExits w).2 = []) : (settleExits w).1 = w.edges := by
  have told := (tellsChanges_settleBranches w.nodes w.nodeIds (nodup_eraseDups
    ((w.nodesOfKind .branch).map Node.id)) w.edges)
  change TellsChanges w.edges (settleExits w).1 (settleExits w).2 at told
  rw [untold] at told
  exact told.eq_of_nil

/-! ### Structural repairs -/

/-- Mending changes an edge exactly where there is a safe defect. -/
theorem edges_mended_eq_iff :
    (mended w).edges = w.edges ↔ (defects w).filter Defect.isSafe = [] := by
  constructor
  · intro same
    have whole : mended w = w := congrArg (Workflow.mk w.nodes) same
    have none := filter_isSafe_mended w
    rwa [whole] at none
  · intro none
    rw [← mend_safe, none, List.filterMap_nil, mend_nil]

/-- What a structural repair tells: it has changed an edge exactly when it says so, and that is
when it tells a fix. -/
theorem tells_fixStructure {v : Validator} {onlyInvalid : Bool} {o : StructureOutcome}
    (h : fixStructure v onlyInvalid w = .ok o) :
    (o.workflow.edges ≠ w.edges ↔ o.changed = true) ∧ (o.changed = true ↔ o.fixes ≠ []) := by
  cases structureEnd_of_fixStructure h with
  | leftAlone => simp [StructureOutcome.changed]
  | takenBack => simp [StructureOutcome.changed]
  | stands => simp [StructureOutcome.changed, edges_mended_eq_iff, preview]

theorem fixStructure_eq_self {v : Validator} {onlyInvalid : Bool} {o : StructureOutcome}
    (h : fixStructure v onlyInvalid w = .ok o) (untold : o.fixes = []) : o.workflow = w := by
  obtain ⟨changed, told⟩ := tells_fixStructure h
  have same : o.workflow.edges = w.edges := by
    by_contra other
    exact told.1 (changed.1 other) untold
  rcases workflow_of_fixStructure h with left | mend
  · exact left
  · rw [mend] at same ⊢
    exact congrArg (Workflow.mk w.nodes) same

/-! ### Rounds -/

theorem counted_eq_nil {n : Nat} {text : String} (h : counted n text = []) : n = 0 := by
  unfold counted at h
  split at h
  · assumption
  · cases h

/-- The workflow of a round once its ends are added. -/
def completed (options : FixOptions) (w : Workflow) : Workflow :=
  if options.addTerminals then (complete w).workflow else w

/-- The workflow of a round before its exits are settled. -/
def renamed (policy : FuzzyPolicy) (options : FixOptions) (w : Workflow) : Workflow :=
  let healed := healReferences policy w
  if options.renameFields then (renameFields healed).1 else healed

/-- No part of a round has anything to tell. -/
structure Untold (policy : FuzzyPolicy) (options : FixOptions) (w : Workflow)
    (s : StructureOutcome) : Prop where
  ends : (if options.addTerminals then (complete w).fixes else []) = []
  input : (if options.fillUserInput then (fillUserInput (completed options w)).2 else 0) = 0
  structural : s.fixes = []
  references : fixTexts true (referenceDefects policy s.workflow) = []
  fields : (if options.renameFields then
    (renameFields (healReferences policy s.workflow)).2 else 0) = 0
  exits : (settleExits (renamed policy options s.workflow)).2 = []

/-- A round tells the fixes of its parts in their order, and none only where no part has any. -/
theorem untold_of_round {r : Round} (h : round fixer options w = .ok r) (untold : r.fixes = []) :
    ∃ s, fixStructure fixer.validator false (prepare options w) = .ok s ∧
      r.workflow = finish fixer.policy options s.workflow ∧
      Untold fixer.policy options w s := by
  obtain ⟨gate, addTerminals, fill, rename⟩ := options
  cases addTerminals <;> cases fill <;> cases rename <;>
  · simp only [round, Bool.false_eq_true, if_true, if_false] at h
    split at h
    · cases h
    · next s hs =>
      cases h
      obtain ⟨untold, exits⟩ := List.append_eq_nil_iff.1 untold
      obtain ⟨untold, fields⟩ := List.append_eq_nil_iff.1 untold
      obtain ⟨untold, references⟩ := List.append_eq_nil_iff.1 untold
      obtain ⟨untold, structural⟩ := List.append_eq_nil_iff.1 untold
      obtain ⟨ends, input⟩ := List.append_eq_nil_iff.1 untold
      exact ⟨s, hs, rfl, ends, counted_eq_nil input, structural, references,
        counted_eq_nil fields, List.map_eq_nil_iff.1 exits⟩

/-- A round that tells no fix changes nothing. -/
theorem round_eq_self {r : Round} (h : round fixer options w = .ok r) (untold : r.fixes = []) :
    r.workflow = w := by
  obtain ⟨s, structural, made, silent⟩ := untold_of_round h untold
  have ends : completed options w = w := by
    have fixes := silent.ends
    unfold completed
    split
    · next add => exact complete_eq_self_of_fixes (by rwa [if_pos add] at fixes)
    · rfl
  have prepared : prepare options w = w := by
    have count := silent.input
    show (if options.fillUserInput then (fillUserInput (completed options w)).1
      else completed options w) = w
    split
    · next fill =>
      rw [if_pos fill] at count
      rw [fillUserInput_of_count count, ends]
    · exact ends
  have structured : s.workflow = w := by
    rw [fixStructure_eq_self structural silent.structural, prepared]
  have healed : healReferences fixer.policy s.workflow = s.workflow :=
    healReferences_eq_self silent.references
  have named : renamed fixer.policy options s.workflow = s.workflow := by
    have count := silent.fields
    unfold renamed
    split
    · next rename =>
      rw [if_pos rename] at count
      exact (replaceReferences_of_count count).trans healed
    · exact healed
  have settled : finish fixer.policy options s.workflow = s.workflow := by
    have exits := settleExits_eq_self silent.exits
    show { renamed fixer.policy options s.workflow with
      edges := (settleExits (renamed fixer.policy options s.workflow)).1 } = s.workflow
    rw [exits, named]
  rw [made, settled, structured]

/-- Rounds that add no fix to those that are told already change nothing. -/
theorem rounds_eq_self {n : Nat} {start last : Round} (h : rounds fixer options n start = .ok last)
    (untold : last.fixes = []) : start.fixes = [] ∧ last.workflow = start.workflow := by
  induction n generalizing start with
  | zero =>
    cases h
    exact ⟨untold, rfl⟩
  | succ n ih =>
    unfold rounds at h
    cases result : round fixer options start.workflow with
    | error fault => simp [result] at h
    | ok next =>
      simp only [result] at h
      split at h
      · cases h
        exact ⟨untold, rfl⟩
      · next changed =>
        obtain ⟨none, -⟩ := ih h
        exact absurd (round_eq_self result (List.append_eq_nil_iff.1 none).2) changed

end Repair

/-! ### Whole repairs -/

theorem Fixer.fix_eq_self {fixer : Fixer} {options : FixOptions} {w : Workflow} {o : FixOutcome}
    (h : fixer.fix options w = .ok o) (untold : o.fixes = []) : o.workflow = w := by
  cases fixEnd_of_fix h with
  | leftAlone => rfl
  | takenBack => rfl
  | stands _ _ rounds => exact (Repair.rounds_eq_self rounds untold).2

/-- Nothing is changed in silence: a whole repair that stands and whose workflow is another one
tells a fix, and a structural repair has other edges exactly when it says that it has changed
them, which is when it tells a fix. -/
theorem Repair.changes_told (w : Workflow) :
    (∀ (fixer : Fixer) options o, fixer.fix options w = .ok o → o.reverted = false →
      o.workflow ≠ w → o.fixes ≠ []) ∧
    ∀ v onlyInvalid o, fixStructure v onlyInvalid w = .ok o →
      (o.workflow.edges ≠ w.edges ↔ o.changed = true) ∧ (o.changed = true ↔ o.fixes ≠ []) :=
  ⟨fun _ _ _ h _ changed untold => changed (Fixer.fix_eq_self h untold),
    fun _ _ _ h => tells_fixStructure h⟩

/-- Both repairs change a frayed workflow: the structural one its edges, the whole one also the
user input of its model. -/
theorem Repair.changes_told_frayed : ∃ o o',
    Fixer.fix ⟨{}, {}⟩ {} frayed = .ok o ∧ o.reverted = false ∧ o.workflow ≠ frayed ∧
    o.fixes ≠ [] ∧ fixStructure {} true frayed = .ok o' ∧ o'.workflow.edges ≠ frayed.edges ∧
    o'.changed = true ∧ o'.fixes ≠ [] := by
  have whole : (Fixer.fix ⟨{}, {}⟩ {} frayed).toOption.map
      (fun o => (o.reverted, decide (o.workflow ≠ frayed))) = some (false, true) := by
    decide +kernel
  have structural : (fixStructure {} true frayed).toOption.map
      (fun o => decide (o.workflow.edges ≠ frayed.edges)) = some true := by
    decide +kernel
  obtain ⟨o, fixed, found⟩ := ok_of_toOption whole
  obtain ⟨o', mended, edges⟩ := ok_of_toOption structural
  injection found with stands changed
  obtain ⟨told, alike⟩ := changes_told frayed
  obtain ⟨claimed, fixes⟩ := alike {} true o' mended
  have new : o.workflow ≠ frayed := of_decide_eq_true changed
  have changed' : o'.changed = true := claimed.1 (of_decide_eq_true edges)
  exact ⟨o, o', fixed, stands, new, told _ _ o fixed stands new, mended, of_decide_eq_true edges,
    changed', fixes.1 changed'⟩

end WorkflowRepair
