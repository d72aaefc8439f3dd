import WorkflowRepair.Proofs.Repair.EndNodes
import WorkflowRepair.Proofs.Repair.Keyed

/-!
Names in a workflow that gets new nodes and new references. The labels of new ends are their own
normal forms, in order, and none is shared unless it is the normal form of another; with more nodes
no fewer names are resolved. A new reference is resolved where the node that it names has a label,
while an id need not be a name for the validation. That the data of nodes gives no key twice is
granted for what was read from a text, and for all that repairs make of it.
-/

namespace WorkflowRepair.Repair

open Template (IsPath braced)
open Validation (Identified identityFindings isReserved normals resolves reservedStarts
  shared unresolvedIn unresolvedOf)

variable {w : Workflow} {n : Node} {nodes : List Node}

/-! ### Labels of new ends -/

/-- The label of the node begins with the base, is its own normal form, and is in order. -/
structure NewLabel (base : String) (n : Node) : Prop where
  begins : base.toList <+: n.label.toList
  labelled : n.isLabelled = true
  normal : Template.normalLabel n.label = n.label
  free : isReserved n.label = false

/-- Whether a character is no blank and its own lower-case form. -/
def isPlainLetter (c : Char) : Bool := !Text.isBlank c && Text.isCaseless c

theorem newLabel_freshName {base : String} {used : List String} (given : base ≠ "")
    (letters : base.toList.all isPlainLetter = true)
    (apart : ∀ start ∈ reservedStarts, ¬ start.toList <+: base.toList ∧
      ¬ base.toList <+: start.toList) (same : n.label = freshName base "" used) :
    NewLabel base n := by
  have begins : base.toList <+: n.label.toList := same ▸ prefix_freshName base "" used
  have digits : ∀ c : Char, c.isDigit = true → isPlainLetter c = true := fun c digit => by
    rw [isPlainLetter, (OrdinaryLabel.isSolid_iff.1 (isSolid_of_isDigit digit)).1,
      Text.isCaseless_of_isDigit digit]
    rfl
  have plain : ∀ c ∈ n.label.toList, Text.isBlank c = false ∧ Text.isCaseless c = true := by
    have all := all_freshName used digits letters (by decide : "".toList.all isPlainLetter = true)
    rw [← same] at all
    simpa [isPlainLetter] using all
  have filled : n.label ≠ "" := fun empty => by
    rw [empty] at begins
    exact given (String.toList_inj.1 (List.prefix_nil.1 begins))
  refine ⟨begins, ?_, Template.normalLabel_of_caseless filled plain, ?_⟩
  · rw [Node.isLabelled, Bool.not_eq_true']
    exact Text.isBlankText_of_solid filled fun c mem => (plain c mem).1
  · refine List.any_eq_false.2 fun start mem reserved => ?_
    rcases List.prefix_or_prefix_of_prefix (List.isPrefixOf_iff_prefix.1 reserved) begins with h | h
    · exact (apart start mem).1 h
    · exact (apart start mem).2 h

theorem newLabel_of_inputFor? (h : inputFor? w = some n) : NewLabel "用户输入" n := by
  obtain ⟨id, used, rfl⟩ := exists_of_inputFor? h
  exact newLabel_freshName (by decide) (by decide) (by decide) rfl

theorem newLabel_of_outputFor? {added : Option Node} (h : outputFor? w added = some n) :
    NewLabel "最终输出" n := by
  obtain ⟨id, used, shown, rfl⟩ := exists_of_outputFor? h
  exact newLabel_freshName (by decide) (by decide) (by decide) rfl

/-- The ends that are added. -/
def addedNodes (w : Workflow) : List Node :=
  (inputFor? w).toList ++ (outputFor? w (inputFor? w)).toList

theorem perm_nodes_complete (w : Workflow) :
    (complete w).workflow.nodes.Perm (addedNodes w ++ w.nodes) := by
  rw [nodes_complete, addedNodes, List.append_assoc, List.append_assoc]
  exact List.perm_append_comm.append_left _

theorem newLabel_of_added (mem : n ∈ addedNodes w) :
    n.isLabelled = true ∧ Template.normalLabel n.label = n.label ∧ isReserved n.label = false := by
  rcases List.mem_append.1 mem with input | output
  · have new := newLabel_of_inputFor? (Option.mem_toList.1 input)
    exact ⟨new.labelled, new.normal, new.free⟩
  · have new := newLabel_of_outputFor? (Option.mem_toList.1 output)
    exact ⟨new.labelled, new.normal, new.free⟩

/-- New ends have different labels, since their bases begin differently. -/
theorem nodup_newLabels (w : Workflow) : ((addedNodes w).map Node.label).Nodup := by
  rw [addedNodes, List.map_append, List.nodup_append]
  refine ⟨?_, ?_, ?_⟩
  · cases inputFor? w <;> simp
  · cases outputFor? w (inputFor? w) <;> simp
  · rintro label input label' output rfl
    obtain ⟨n, mem, rfl⟩ := List.mem_map.1 input
    obtain ⟨n', mem', same⟩ := List.mem_map.1 output
    have begins := (newLabel_of_inputFor? (Option.mem_toList.1 mem)).begins
    have begins' := (newLabel_of_outputFor? (Option.mem_toList.1 mem')).begins
    rw [same] at begins'
    exact absurd (List.prefix_or_prefix_of_prefix begins begins') (by decide)

theorem normals_complete (w : Workflow) : (normals (complete w).workflow.nodes).Perm
    ((addedNodes w).map Node.label ++ normals w.nodes) := by
  have added : normals (addedNodes w) = (addedNodes w).map Node.label := by
    rw [normals, List.filter_eq_self.2 fun n mem => (newLabel_of_added mem).1]
    exact List.map_congr_left fun n mem => (newLabel_of_added mem).2.1
  refine (((perm_nodes_complete w).filter _).map _).trans (.of_eq ?_)
  rw [List.filter_append, List.map_append, ← added]
  rfl

theorem countP_isLabelled_complete (w : Workflow) :
    (complete w).workflow.nodes.countP (! ·.isLabelled) = w.nodes.countP (! ·.isLabelled) := by
  have added : (addedNodes w).countP (! ·.isLabelled) = 0 :=
    List.countP_eq_zero.2 fun n mem => by simp [(newLabel_of_added mem).1]
  rw [(perm_nodes_complete w).countP_eq, List.countP_append, added, Nat.zero_add]

theorem countP_isReserved_complete (w : Workflow) :
    (normals (complete w).workflow.nodes).countP isReserved =
      (normals w.nodes).countP isReserved := by
  have added : ((addedNodes w).map Node.label).countP isReserved = 0 := by
    refine List.countP_eq_zero.2 fun label mem => ?_
    obtain ⟨n, inside, rfl⟩ := List.mem_map.1 mem
    simp [(newLabel_of_added inside).2.2]
  rw [(normals_complete w).countP_eq, List.countP_append, added, Nat.zero_add]

theorem shared_complete
    (other : ∀ n ∈ addedNodes w, (normals w.nodes).count n.label ≠ 1) :
    shared (normals (complete w).workflow.nodes) = shared (normals w.nodes) := by
  rw [Validation.shared_perm (normals_complete w)]
  refine Validation.shared_append (nodup_newLabels w) fun label mem => ?_
  obtain ⟨n, inside, rfl⟩ := List.mem_map.1 mem
  exact other n inside

/-! ### Names among more nodes -/

/-- Of a kind that there is no end is added. -/
theorem countP_isKind_added {kind : NodeKind} (given : w.nodes.any (·.isKind kind) = true) :
    (addedNodes w).countP (·.isKind kind) = 0 := by
  have other {end' : NodeKind} {n : Node} (none : w.nodes.any (·.isKind end') = false)
      (isEnd : n.isKind end' = true) : ¬ n.isKind kind = true := fun same => by
    rw [Node.isKind, beq_iff_eq] at isEnd same
    obtain rfl := Option.some.inj (same.symm.trans isEnd)
    rw [given] at none
    cases none
  refine List.countP_eq_zero.2 fun n mem => ?_
  rcases List.mem_append.1 mem with input | output
  · obtain ⟨none, isInput, -⟩ := new_of_inputFor? (Option.mem_toList.1 input)
    exact other none isInput
  · obtain ⟨none, isOutput, -⟩ := new_of_outputFor? (Option.mem_toList.1 output)
    exact other none isOutput

theorem resolves_complete {name : String} (h : resolves w.nodes name = true) :
    resolves (complete w).workflow.nodes name = true := by
  simp only [resolves, Bool.or_eq_true] at h ⊢
  refine h.imp (Or.imp_right fun label => ?_) fun single => ?_
  · obtain ⟨n, mem, same⟩ := List.any_eq_true.1 label
    exact List.any_eq_true.2
      ⟨n, (perm_nodes_complete w).mem_iff.2 (List.mem_append_right _ mem), same⟩
  · unfold Validation.namesSingleKind at single ⊢
    split at single
    · next kind _ =>
      have given : w.nodes.any (·.isKind kind) = true :=
        List.any_eq_true.2 (List.countP_pos_iff.1 (by rw [beq_iff_eq.1 single]; decide))
      rwa [(perm_nodes_complete w).countP_eq, List.countP_append, countP_isKind_added given,
        Nat.zero_add]
    · cases single

/-- A labelled node is referred to by its name. -/
theorem resolves_displayName (mem : n ∈ nodes) (labelled : n.isLabelled = true) :
    resolves nodes n.displayName = true := by
  have name : n.displayName = Text.strip n.label := if_pos labelled
  have label : Validation.hasLabel nodes (Template.normalLabel n.displayName) = true :=
    List.any_eq_true.2 ⟨n, mem, by simp [name, Template.normalLabel_strip, labelled]⟩
  rw [resolves, label, Bool.or_true, Bool.true_or]

/-! ### New references -/

/-- The name by which a new reference refers to a node, or that of a field where there is none. -/
def nameFor (source? : Option Node) : String := (source?.map Node.displayName).getD "response"

/-- The references in a new text that are not resolved: none where the node has a label, and at most
one by an id or the name of a field. -/
structure Written (nodes : List Node) (source? : Option Node) (text : String) : Prop where
  labelled : ∀ n ∈ source?, n.isLabelled = true → PlainName n.displayName →
    unresolvedIn nodes text = 0
  plain : PlainName (nameFor source?) →
    unresolvedIn nodes text ≤ if resolves nodes (nameFor source?) then 0 else 1

theorem unresolvedIn_braced {name path : String} (ordinary : OrdinaryLabel name)
    (filled : Text.isBlankText name = false) (behind : IsPath path.toList) :
    unresolvedIn nodes (braced (name ++ path)) = if resolves nodes name then 0 else 1 := by
  rw [unresolvedIn, Template.references_braced ordinary filled behind]
  cases known : resolves nodes name <;> simp [known]

/-- What a node yields stands behind its name. -/
theorem isPath_field {field : String} (solid : field.toList.all OrdinaryLabel.isSolid = true) :
    IsPath ("." ++ field).toList := by
  have each : ∀ c ∈ field.toList, OrdinaryLabel.isSolid c = true := List.all_eq_true.1 solid
  rw [String.toList_append]
  refine ⟨fun c mem => ?_, fun c begins => ?_, fun c ends => ?_⟩
  · rcases List.mem_append.1 mem with point | mem
    · rw [List.mem_singleton.1 point]
      decide
    · simpa [Template.isBody] using (OrdinaryLabel.isSolid_iff.1 (each c mem)).2.2.2
  · rw [← Option.some.inj begins]
    decide
  · rcases List.mem_append.1 (List.mem_of_getLast? ends) with point | mem
    · rw [List.mem_singleton.1 point]
      decide
    · exact (OrdinaryLabel.isSolid_iff.1 (each c mem)).1

theorem written_referenceTo {field : String} (identified : Identified n) (mem : n ∈ nodes)
    (solid : field.toList.all OrdinaryLabel.isSolid = true) :
    Written nodes (some n) (referenceTo n field) := by
  have counted (plain : PlainName n.displayName) : unresolvedIn nodes (referenceTo n field) =
      if resolves nodes n.displayName then 0 else 1 := by
    rw [referenceTo, String.append_assoc]
    exact unresolvedIn_braced (Node.ordinaryLabel_displayName identified plain)
      (Node.isBlankText_displayName identified) (isPath_field solid)
  refine ⟨?_, fun plain => Nat.le_of_eq (counted plain)⟩
  rintro n' same labelled plain
  obtain rfl := Option.some.inj same
  rw [counted plain, if_pos (resolves_displayName mem labelled)]

theorem written_response : Written nodes none (braced "response") := by
  have counted : unresolvedIn nodes (braced ("response" ++ "")) =
      if resolves nodes "response" then 0 else 1 :=
    unresolvedIn_braced (ordinaryLabel_of_solid (by decide)) (by decide) ⟨nofun, nofun, nofun⟩
  rw [String.append_empty] at counted
  exact ⟨nofun, fun _ => Nat.le_of_eq counted⟩

/-- The last node of a kind with an id. -/
def lastOfKind? (w : Workflow) (kind : NodeKind) : Option Node :=
  ((w.nodesOfKind kind).filter fun n => n.id ≠ "").getLast?

/-- The node that a new output refers to. -/
def shown? (w : Workflow) : Option Node := yields.findSome? fun y => lastOfKind? w y.1

theorem findSome?_map {α β γ : Type} (f : α → Option β) (g : α → β → γ) (items : List α) :
    (items.findSome? f = none ∧ items.findSome? (fun a => (f a).map (g a)) = none) ∨
      ∃ a ∈ items, ∃ b, f a = some b ∧ items.findSome? f = some b ∧
        items.findSome? (fun a => (f a).map (g a)) = some (g a b) := by
  induction items with
  | nil => exact .inl ⟨rfl, rfl⟩
  | cons a rest ih =>
    cases found : f a with
    | some b =>
      exact .inr ⟨a, List.mem_cons_self, b, found, by simp [found], by simp [found]⟩
    | none =>
      refine ih.imp (fun none => ?_) fun ⟨a', mem, b, here⟩ =>
        ⟨a', List.mem_cons_of_mem _ mem, b, ?_⟩
      · simpa [found] using none
      · simpa [found] using here

/-- A new output refers to a node by what nodes of its kind yield, or to nothing. -/
theorem shownReference_cases (w : Workflow) :
    (shown? w = none ∧ shownReference w = braced "response") ∨
      ∃ n ∈ w.nodes, ∃ y ∈ yields, shown? w = some n ∧ shownReference w = referenceTo n y.2 := by
  have found : shownReference w = (yields.findSome? fun y =>
      (lastOfKind? w y.1).map fun n => referenceTo n y.2).getD (braced "response") := rfl
  rw [found, shown?]
  rcases findSome?_map (fun y => lastOfKind? w y.1) (fun y n => referenceTo n y.2) yields with
    ⟨none, none'⟩ | ⟨y, mem, n, last, some, some'⟩
  · exact .inl ⟨none, by rw [none']; rfl⟩
  · refine .inr ⟨n, ?_, y, mem, some, by rw [some']; rfl⟩
    exact (List.mem_filter.1 (List.mem_filter.1 (List.mem_of_getLast? last)).1).1

theorem written_shownReference (named : identityFindings [] w.nodes = []) :
    Written (complete w).workflow.nodes (shown? w) (shownReference w) := by
  have fields : ∀ y ∈ yields, y.2.toList.all OrdinaryLabel.isSolid = true := by decide
  rcases shownReference_cases w with ⟨none, text⟩ | ⟨n, mem, y, known, some, text⟩
  · rw [none, text]
    exact written_response
  · rw [some, text]
    refine written_referenceTo ((Validation.identityFindings_eq_nil_iff.1 named).1 n mem) ?_
      (fields y known)
    exact (perm_nodes_complete w).mem_iff.2 (List.mem_append_right _ mem)

/-- The only input node with an id. -/
def onlyInput? (nodes : List Node) : Option Node :=
  match (nodes.filter (·.isKind .input)).filter fun n => n.id ≠ "" with
  | [input] => some input
  | _ => none

theorem userInput?_cases (nodes : List Node) :
    (onlyInput? nodes = none ∧ userInput? nodes = none) ∨ ∃ n ∈ nodes, onlyInput? nodes = some n ∧
      userInput? nodes = some (referenceTo n "user_input") := by
  have inside : ∀ n ∈ (nodes.filter (·.isKind .input)).filter (fun n => n.id ≠ ""), n ∈ nodes :=
    fun n mem => (List.mem_filter.1 (List.mem_filter.1 mem).1).1
  rw [onlyInput?, userInput?]
  generalize (nodes.filter (·.isKind .input)).filter (fun n => n.id ≠ "") = found at inside ⊢
  rcases found with - | ⟨input, - | ⟨other, rest⟩⟩
  · exact .inl ⟨rfl, rfl⟩
  · exact .inr ⟨input, inside input List.mem_cons_self, rfl, rfl⟩
  · exact .inl ⟨rfl, rfl⟩

theorem written_userInput (named : identityFindings [] nodes = []) :
    Written nodes (onlyInput? nodes) ((userInput? nodes).getD "") := by
  rcases userInput?_cases nodes with ⟨none, none'⟩ | ⟨n, mem, some, some'⟩
  · have empty : Template.references "" = [] := by decide +kernel
    rw [none, none']
    exact ⟨nofun, fun _ => by simp [unresolvedIn, empty]⟩
  · rw [some, some']
    exact written_referenceTo ((Validation.identityFindings_eq_nil_iff.1 named).1 n mem) mem
      (by decide)

/-! ### The references of new ends -/

theorem unresolvedOf_newOutput (id label shown : String) :
    unresolvedOf nodes (newOutput id label shown).data = unresolvedIn nodes shown := by
  have texts : Members.texts (newOutput id label shown).data = ["select", "variable", shown] := rfl
  have plain : Template.references "select" = [] ∧ Template.references "variable" = [] := by
    decide +kernel
  rw [unresolvedOf, texts]
  simp [unresolvedIn, plain]

/-- How many outputs are added. -/
def newOutputs (w : Workflow) : Nat := (outputFor? w (inputFor? w)).toList.length

theorem sum_addedNodes (w : Workflow) :
    ((addedNodes w).map fun n => unresolvedOf nodes n.data).sum =
      newOutputs w * unresolvedIn nodes (shownReference w) := by
  have input : ((inputFor? w).toList.map fun n => unresolvedOf nodes n.data).sum = 0 := by
    cases found : inputFor? w with
    | none => rfl
    | some n =>
      obtain ⟨id, used, rfl⟩ := exists_of_inputFor? found
      rfl
  rw [addedNodes, List.map_append, List.sum_append, input, Nat.zero_add, newOutputs]
  unfold outputFor?
  split
  · exact (Nat.zero_mul _).symm
  · simp [unresolvedOf_newOutput]

theorem unresolved_complete (w : Workflow) :
    ((complete w).workflow.nodes.map fun n =>
        unresolvedOf (complete w).workflow.nodes n.data).sum ≤
      (w.nodes.map fun n => unresolvedOf w.nodes n.data).sum +
        newOutputs w * unresolvedIn (complete w).workflow.nodes (shownReference w) := by
  have old : (w.nodes.map fun n => unresolvedOf (complete w).workflow.nodes n.data).sum ≤
      (w.nodes.map fun n => unresolvedOf w.nodes n.data).sum :=
    List.sum_le_sum fun n _ => Validation.unresolvedOf_le (fun _ => resolves_complete) n.data
  rw [((perm_nodes_complete w).map _).sum_eq, List.map_append, List.sum_append, sum_addedNodes]
  omega

/-! ### Reports -/

/-- No more nodes lack a label or have a reserved one than before, and references that are not
resolved are more by no more than those in a text that is written so many times. -/
structure NamesKept (nodes : List Node) (before after : Report) (times : Nat)
    (source? : Option Node) (text : String) : Prop where
  missing : after.codes.count "FFV-NODE-003" ≤ before.codes.count "FFV-NODE-003"
  reserved : after.codes.count "FFV-NODE-005" ≤ before.codes.count "FFV-NODE-005"
  unresolved : after.codes.count "FFV-VAR-001" ≤
    before.codes.count "FFV-VAR-001" + times * unresolvedIn nodes text
  written : Written nodes source? text

section Reports

variable {catalog : Catalog} {before after : Report}
  (run : Validator.reportOn ⟨catalog, .generated⟩ w = .ok before)
  (sound : identityFindings [] w.nodes = [])

include run sound

theorem namesKept_complete
    (run' : Validator.reportOn ⟨catalog, .generated⟩ (complete w).workflow = .ok after) :
    NamesKept (complete w).workflow.nodes before after (newOutputs w) (shown? w)
        (shownReference w) ∧
      ((∀ n ∈ addedNodes w, (normals w.nodes).count n.label ≠ 1) →
        after.codes.count "FFV-NODE-004" ≤ before.codes.count "FFV-NODE-004") := by
  have old := Validation.countsNames_of_report run sound
  have new := Validation.countsNames_of_report run' (identities_complete sound)
  refine ⟨⟨?_, ?_, ?_, written_shownReference sound⟩, fun other => ?_⟩
  · rw [new.missing, old.missing, countP_isLabelled_complete]
  · rw [new.reserved, old.reserved, countP_isReserved_complete]
  · rw [new.unresolved, old.unresolved]
    exact unresolved_complete w
  · rw [new.shared, old.shared, shared_complete other]

theorem namesKept_fillUserInput
    (run' : Validator.reportOn ⟨catalog, .generated⟩ (fillUserInput w).1 = .ok after)
    (keyed : ∀ n ∈ w.nodes, KeyedData n.data) :
    NamesKept w.nodes before after (fillUserInput w).2 (onlyInput? w.nodes)
        ((userInput? w.nodes).getD "") ∧
      after.codes.count "FFV-NODE-004" ≤ before.codes.count "FFV-NODE-004" := by
  have old := Validation.countsNames_of_report run sound
  have new := Validation.countsNames_of_report run'
    ((identityFindings_of_kept (kept_fillUserInput w).nodes []).trans sound)
  obtain ⟨labels, labelled, unresolved⟩ := names_fillUserInput keyed
  refine ⟨⟨?_, ?_, ?_, written_userInput sound⟩, ?_⟩
  · rw [new.missing, old.missing, labelled]
  · rw [new.reserved, old.reserved, labels]
  · rw [new.unresolved, old.unresolved]
    exact unresolved
  · rw [new.shared, old.shared, labels]

/-- The names in a workflow that was read from a text of a model, with user inputs filled in. -/
theorem namesKept_of_payload {key text : String} {payload : Members}
    (found : Extraction.payload? key text = some payload)
    (read : Workflow.ofRaw (Members.getD payload "nodes") (Members.getD payload "edges") = .ok w)
    (run' : Validator.reportOn ⟨catalog, .generated⟩ (fillUserInput w).1 = .ok after) :
    NamesKept w.nodes before after (fillUserInput w).2 (onlyInput? w.nodes)
        ((userInput? w.nodes).getD "") ∧
      after.codes.count "FFV-NODE-004" ≤ before.codes.count "FFV-NODE-004" := by
  have once : w.Keyed := Workflow.keyed_of_payload found read
  exact namesKept_fillUserInput run sound run' fun n mem => (once n mem).keyedData

end Reports

/-- Where nothing is wrong with the identities of nodes, neither new ends nor user inputs that are
filled in leave more nodes without a label or with a reserved one. No more labels are shared, unless
that of a new end is the normal form of just one other. References that are not resolved come only
by the new texts, and none where the node that these refer to has a plain label. -/
theorem new_names_clean {catalog : Catalog} {before : Report}
    (run : Validator.reportOn ⟨catalog, .generated⟩ w = .ok before)
    (named : before.codes.count "FFV-NODE-001" = 0) (once : before.codes.count "FFV-NODE-002" = 0)
    (keyed : ∀ n ∈ w.nodes, KeyedData n.data) :
    ∃ completed filled,
      Validator.reportOn ⟨catalog, .generated⟩ (complete w).workflow = .ok completed ∧
      Validator.reportOn ⟨catalog, .generated⟩ (fillUserInput w).1 = .ok filled ∧
      NamesKept (complete w).workflow.nodes before completed (newOutputs w) (shown? w)
        (shownReference w) ∧
      ((∀ n ∈ addedNodes w, (normals w.nodes).count n.label ≠ 1) →
        completed.codes.count "FFV-NODE-004" ≤ before.codes.count "FFV-NODE-004") ∧
      NamesKept w.nodes before filled (fillUserInput w).2 (onlyInput? w.nodes)
        ((userInput? w.nodes).getD "") ∧
      filled.codes.count "FFV-NODE-004" ≤ before.codes.count "FFV-NODE-004" := by
  have sound : identityFindings [] w.nodes = [] := Validation.identityFindings_eq_nil run
    (Report.has_eq_false_iff.2 named) (Report.has_eq_false_iff.2 once)
  have examinable := Validation.reportOn_ok_iff.1 ⟨before, run⟩
  obtain ⟨completed, run'⟩ : ∃ completed,
      Validator.reportOn ⟨catalog, .generated⟩ (complete w).workflow = .ok completed :=
    Validation.reportOn_ok_iff.2 (examinable_complete examinable)
  obtain ⟨filled, run''⟩ : ∃ filled,
      Validator.reportOn ⟨catalog, .generated⟩ (fillUserInput w).1 = .ok filled :=
    Validation.reportOn_ok_iff.2 ((kept_fillUserInput w).examinable examinable)
  obtain ⟨clean, apart⟩ := namesKept_complete run sound run'
  exact ⟨completed, filled, run', run'', clean, apart,
    namesKept_fillUserInput run sound run'' keyed⟩

/-- A question with a model that has no user input and refers to a node that is not there. -/
def unanswered : Workflow :=
  { nodes := [
      { id := "q", type := "input", data := [("label", .str " The  Question ")] },
      { id := "m", type := "llm", data := [("label", .str "Answer"),
        ("prompt", .str "\x7b\x7bnowhere.a\x7d\x7d"), ("inputMappings", .obj [])] }]
    edges := [{ source := "q", target := "m" }] }

theorem new_names_clean_unanswered :
    ∃ before completed filled,
      Validator.reportOn ⟨.standard, .generated⟩ unanswered = .ok before ∧
      Validator.reportOn ⟨.standard, .generated⟩ (complete unanswered).workflow = .ok completed ∧
      Validator.reportOn ⟨.standard, .generated⟩ (fillUserInput unanswered).1 = .ok filled ∧
      before.codes.count "FFV-VAR-001" = 1 ∧
      completed.codes.count "FFV-VAR-001" ≤ 1 ∧ completed.codes.count "FFV-NODE-004" = 0 ∧
      filled.codes.count "FFV-VAR-001" ≤ 1 ∧ filled.codes.count "FFV-NODE-004" = 0 := by
  have counts : (Validator.reportOn ⟨.standard, .generated⟩ unanswered).toOption.map
      (fun report => (report.codes.count "FFV-NODE-001", report.codes.count "FFV-NODE-002",
        report.codes.count "FFV-VAR-001", report.codes.count "FFV-NODE-004")) =
          some (0, 0, 1, 0) := by
    decide +kernel
  obtain ⟨before, run, has⟩ := ok_of_toOption counts
  simp only [Prod.mk.injEq] at has
  obtain ⟨named, once, unresolved, shared⟩ := has
  obtain ⟨completed, filled, run', run'', clean, apart, clean', apart'⟩ :=
    new_names_clean run named once (by decide)
  have shown : unresolvedIn (complete unanswered).workflow.nodes (shownReference unanswered) = 0 :=
    clean.written.labelled _ rfl (by decide) (by decide)
  have filledIn : unresolvedIn unanswered.nodes ((userInput? unanswered.nodes).getD "") = 0 :=
    clean'.written.labelled _ rfl (by decide) (by decide)
  have more := clean.unresolved
  have more' := clean'.unresolved
  have free := apart (by decide +kernel)
  rw [shown, unresolved] at more
  rw [filledIn, unresolved] at more'
  exact ⟨before, completed, filled, run, run', run'', unresolved, more, by omega, more', by omega⟩

/-- A tool without a label. -/
def unlabelled : Workflow :=
  { nodes := [{ id := "a", type := "tool", data := [("toolType", .str "t")] }] }

/-- A new output refers to the tool by its id, which the validation does not resolve. -/
theorem unresolved_of_unlabelled :
    (Validator.reportOn ⟨.standard, .generated⟩ unlabelled).toOption.map (fun report =>
        (report.codes.count "FFV-NODE-001", report.codes.count "FFV-NODE-002",
          report.codes.count "FFV-VAR-001")) = some (0, 0, 0) ∧
      (Validator.reportOn ⟨.standard, .generated⟩ (complete unlabelled).workflow).toOption.map
        (fun report => report.codes.count "FFV-VAR-001") = some 1 := by
  decide +kernel

end WorkflowRepair.Repair
