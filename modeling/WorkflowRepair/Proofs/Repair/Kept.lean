import Mathlib.Data.List.Forall2
import WorkflowRepair.Proofs.Repair.Exits
import WorkflowRepair.Proofs.Repair.Mending
import WorkflowRepair.Proofs.Repair.Rounds
import WorkflowRepair.Proofs.Template.Wording
import WorkflowRepair.Proofs.Workflow.Face

/-!
What a repair without new ends keeps. The nodes stay in their places; of a node only the wording of
references changes, and a language model without user input gets that of the only input node. Every
edge stems from an edge that was there, in the same order: only its handle, a missing id and ends
that are no ids change.
-/

namespace WorkflowRepair

open Repair (endpoint? distinctNodes referenceTo)

/-! ### Nodes -/

/-- The user input to fill in: a reference to the only input node with an id. -/
def Repair.userInput? (nodes : List Node) : Option String :=
  match (nodes.filter (·.isKind .input)).filter fun n => n.id ≠ "" with
  | [input] => some (referenceTo input "user_input")
  | _ => none

/-- A language model has no text for its user input, or a blank one. -/
def Node.LacksUserInput (n : Node) : Prop :=
  n.isKind .llm = true ∧
    Validation.isFilled (Members.getD (Validation.mappings n.data) "user_input") = false

/-- The data with a text for the user input; input mappings that are no object give way. -/
def Members.withUserInput (data : Members) (text : String) : Members :=
  set data "inputMappings" (.obj (set (Validation.mappings data) "user_input" (.str text)))

/-- A node after repair, when `userInput?` is filled in where it is lacking: only its data differs,
not in the label, and in nothing but that and the wording of references. -/
structure Node.Kept (userInput? : Option String) (before after : Node) : Prop where
  id : after.id = before.id
  type : after.type = before.type
  position : after.position = before.position
  extra : after.extra = before.extra
  label : Members.getD after.data "label" = Members.getD before.data "label"
  data : Json.RewordedMembers before.data after.data ∨
    ∃ text, userInput? = some text ∧ before.LacksUserInput ∧
      Json.RewordedMembers (before.data.withUserInput text) after.data

/-! ### Edges -/

/-- An edge after repair and the one it stems from, among the nodes given: an id is never lost, and
an end is the one it was or what that stands for. -/
structure Edge.Stems (nodes : List Node) (after before : Edge) : Prop where
  source : after.source = before.source ∨
    endpoint? (distinctNodes nodes) before.source = some after.source
  target : after.target = before.target ∨
    endpoint? (distinctNodes nodes) before.target = some after.target
  id : ∀ id, before.id = some id → after.id = some id
  targetHandle : after.targetHandle = before.targetHandle
  extra : after.extra = before.extra

/-- A workflow after repair: all nodes in their places, and edges that stem, one by one and in
order, from edges there were. -/
structure Workflow.Kept (userInput? : Option String) (before after : Workflow) : Prop where
  nodes : List.Forall₂ (Node.Kept userInput?) before.nodes after.nodes
  edges : ∃ part, List.Forall₂ (Edge.Stems before.nodes) after.edges part ∧
    part.Sublist before.edges

/-! ### One step after the other -/

namespace Node

theorem Kept.refl (userInput? : Option String) (n : Node) : Kept userInput? n n :=
  ⟨rfl, rfl, rfl, rfl, rfl, .inl (.refl _)⟩

variable {userInput? : Option String} {a b c : Node}

theorem Kept.isKind (h : Kept userInput? a b) (kind : NodeKind) :
    b.isKind kind = a.isKind kind := by
  rw [Node.isKind, Node.isKind, Node.kind, Node.kind, h.type]

theorem Kept.face (h : Kept userInput? a b) : b.face = a.face :=
  face_eq_iff.2 ⟨h.id, h.type, h.position, by rw [Node.label, Node.label, h.label]⟩

/-- A node that lacks user input after its rewording lacked it before. -/
theorem lacks_of_reworded (same : b.isKind .llm = a.isKind .llm)
    (h : Json.RewordedMembers a.data b.data) (lacks : b.LacksUserInput) : a.LacksUserInput := by
  refine ⟨same ▸ lacks.1, ?_⟩
  by_contra filled
  rw [Bool.not_eq_false] at filled
  have still := (h.mappings.getD "user_input").isFilled filled
  rw [lacks.2] at still
  cases still

theorem mappings_withUserInput (data : Members) (text : String) :
    Validation.mappings (data.withUserInput text) =
      Members.set (Validation.mappings data) "user_input" (.str text) := by
  rw [Validation.mappings, Members.withUserInput, Members.getD_set_self]
  rfl

/-- User input is filled in once at most, as it is still there later. -/
theorem Kept.trans (some : ∀ text, userInput? = some text → Text.isBlankText text = false)
    (h : Kept userInput? a b) (h' : Kept userInput? b c) : Kept userInput? a c := by
  refine ⟨h'.id.trans h.id, h'.type.trans h.type, h'.position.trans h.position,
    h'.extra.trans h.extra, h'.label.trans h.label, ?_⟩
  rcases h'.data with reworded' | ⟨text', given', lacks', reworded'⟩
  · rcases h.data with reworded | ⟨text, given, lacks, reworded⟩
    · exact .inl (reworded.trans reworded')
    · exact .inr ⟨text, given, lacks, reworded.trans reworded'⟩
  · rcases h.data with reworded | ⟨text, given, lacks, reworded⟩
    · refine .inr ⟨text', given', lacks_of_reworded (h.isKind .llm) reworded lacks', ?_⟩
      refine Json.RewordedMembers.trans ?_ reworded'
      exact reworded.set "inputMappings" (.obj (reworded.mappings.set "user_input" (.same _)))
    · have filled := (reworded.mappings.getD "user_input").isFilled
        (by simp [mappings_withUserInput, Members.getD_set_self, Validation.isFilled,
          some text given])
      rw [lacks'.2] at filled
      cases filled

end Node

namespace Edge

theorem Stems.refl (nodes : List Node) (e : Edge) : Stems nodes e e :=
  ⟨.inl rfl, .inl rfl, fun _ given => given, rfl, rfl⟩

/-- An end that is resolved twice is what it was resolved to first. -/
theorem end_trans {nodes : List Node} {a b c : String}
    (h : b = a ∨ endpoint? (distinctNodes nodes) a = some b)
    (h' : c = b ∨ endpoint? (distinctNodes nodes) b = some c) :
    c = a ∨ endpoint? (distinctNodes nodes) a = some c := by
  rcases h with rfl | found
  · exact h'
  · rcases h' with rfl | found'
    · exact .inr found
    · rw [Repair.endpoint?_endpoint? found] at found'
      exact .inr (Option.some.inj found' ▸ found)

theorem Stems.trans {nodes : List Node} {a b c : Edge} (h : Stems nodes a b)
    (h' : Stems nodes b c) : Stems nodes a c :=
  ⟨end_trans h'.source h.source, end_trans h'.target h.target,
    fun id given => h.id id (h'.id id given), h.targetHandle.trans h'.targetHandle,
    h.extra.trans h'.extra⟩

theorem stems_of_bare {nodes : List Node} {after before : Edge} (h : after.bare = before.bare) :
    Stems nodes after before := by
  have id : after.bare.id = before.bare.id := by rw [h]
  have targetHandle : after.bare.targetHandle = before.bare.targetHandle := by rw [h]
  have extra : after.bare.extra = before.bare.extra := by rw [h]
  exact ⟨.inl (source_eq_of_bare h), .inl (target_eq_of_bare h), fun _ given => id.trans given,
    targetHandle, extra⟩

end Edge

theorem forall₂_trans {α : Type} {related : α → α → Prop} {as bs cs : List α}
    (chain : ∀ {a b c}, related a b → related b c → related a c)
    (h : List.Forall₂ related as bs) (h' : List.Forall₂ related bs cs) :
    List.Forall₂ related as cs := by
  induction h generalizing cs with
  | nil =>
    cases h'
    exact .nil
  | cons here _ ih =>
    cases h' with
    | cons here' later' => exact .cons (chain here here') (ih later')

theorem sublistForall₂_filterMap {α β : Type} {related : β → α → Prop} {f : α × Nat → Option β}
    {items : List (α × Nat)} (h : ∀ item ∈ items, ∀ b, f item = some b → related b item.1) :
    List.SublistForall₂ related (items.filterMap f) (items.map Prod.fst) := by
  induction items with
  | nil => exact .nil
  | cons item rest ih =>
    obtain ⟨here, later⟩ := List.forall_mem_cons.1 h
    cases found : f item with
    | none =>
      rw [List.filterMap_cons_none found]
      exact .cons_right (ih later)
    | some b =>
      rw [List.filterMap_cons_some found]
      exact .cons (here b found) (ih later)

namespace Workflow

variable {userInput? : Option String} {a b c : Workflow}

theorem Kept.face (h : Kept userInput? a b) : b.nodes.map Node.face = a.nodes.map Node.face := by
  have same : List.Forall₂ (fun before after => after.face = before.face) a.nodes b.nodes :=
    h.nodes.imp fun _ _ kept => kept.face
  clear h
  generalize a.nodes = before, b.nodes = after at same
  induction same with
  | nil => rfl
  | cons here _ ih => rw [List.map_cons, List.map_cons, here, ih]

/-- What the ends of edges stand for is seen from the faces of the nodes. -/
theorem endpoint?_of_face {before after : List Node}
    (same : after.map Node.face = before.map Node.face) :
    endpoint? (distinctNodes after) = endpoint? (distinctNodes before) := by
  rw [← Repair.endpoint?_face, ← Repair.distinctNodes_face, same, Repair.distinctNodes_face,
    Repair.endpoint?_face]

theorem Kept.refl (userInput? : Option String) (w : Workflow) : Kept userInput? w w :=
  ⟨List.forall₂_same.2 fun n _ => .refl _ n,
    w.edges, List.forall₂_same.2 fun e _ => .refl _ e, .refl _⟩

theorem Kept.trans (some : ∀ text, userInput? = some text → Text.isBlankText text = false)
    (h : Kept userInput? a b) (h' : Kept userInput? b c) : Kept userInput? a c := by
  have stems : ∀ after before, Edge.Stems b.nodes after before →
      Edge.Stems a.nodes after before := by
    intro after before stems
    have ends := endpoint?_of_face h.face
    exact ⟨ends ▸ stems.source, ends ▸ stems.target, stems.id, stems.targetHandle, stems.extra⟩
  have chain : IsTrans Edge (Edge.Stems a.nodes) := ⟨fun _ _ _ => Edge.Stems.trans⟩
  refine ⟨forall₂_trans (fun kept kept' => kept.trans some kept') h.nodes h'.nodes, ?_⟩
  obtain ⟨part, stemming, sublist⟩ := h'.edges
  have later : List.SublistForall₂ (Edge.Stems a.nodes) c.edges b.edges :=
    List.sublistForall₂_iff.2 ⟨part, stemming.imp stems, sublist⟩
  have earlier : List.SublistForall₂ (Edge.Stems a.nodes) b.edges a.edges :=
    List.sublistForall₂_iff.2 h.edges
  exact List.sublistForall₂_iff.1 (Trans.trans later earlier)

end Workflow

/-! ### The passes of a round -/

namespace Repair

theorem filledData?_of_lacks {n : Node} (lacks : n.LacksUserInput) (text : String) :
    filledData? text n = some (n.data.withUserInput text) := by
  simp only [filledData?, lacks.1, lacks.2]
  rfl

theorem lacks_of_filledData? {n : Node} {text : String} {data : Members}
    (h : filledData? text n = some data) : n.LacksUserInput := by
  simp only [filledData?] at h
  split at h
  · next lacks =>
    rw [Bool.and_eq_true, Bool.not_eq_true'] at lacks
    exact lacks
  · cases h

/-- A node with the user input filled in where it is lacking. -/
def fillNode (userInput? : Option String) (n : Node) : Node :=
  match userInput?.bind fun text => filledData? text n with
  | some data => { n with data := data }
  | none => n

theorem fillUserInput_eq (w : Workflow) :
    (fillUserInput w).1 = { w with nodes := w.nodes.map (fillNode (userInput? w.nodes)) } := by
  have inputs : w.nodesOfKind .input = w.nodes.filter (·.isKind .input) := rfl
  rw [fillUserInput, userInput?, inputs]
  generalize (w.nodes.filter (·.isKind .input)).filter (fun n => n.id ≠ "") = found
  have same : fillNode none = id := rfl
  rcases found with - | ⟨input, - | ⟨other, rest⟩⟩
  · simp only [same, List.map_id]
  · refine congrArg (Workflow.mk · w.edges) (List.map_congr_left fun n _ => ?_)
    cases data : filledData? (referenceTo input "user_input") n with
    | none => simp only [fillNode, Option.bind_some, data]
    | some new => simp only [fillNode, Option.bind_some, data]
  · simp only [same, List.map_id]

theorem userInput?_face (nodes : List Node) :
    userInput? (nodes.map Node.face) = userInput? nodes := by
  have inputs : ((nodes.map Node.face).filter (·.isKind .input)).filter (fun n => n.id ≠ "") =
      ((nodes.filter (·.isKind .input)).filter (fun n => n.id ≠ "")).map Node.face := by
    simp only [List.filter_map]
    rfl
  rw [userInput?, userInput?, inputs]
  generalize (nodes.filter (·.isKind .input)).filter (fun n => n.id ≠ "") = found
  rcases found with - | ⟨input, - | ⟨other, rest⟩⟩ <;> rfl

theorem userInput?_of_face {nodes nodes' : List Node}
    (same : nodes'.map Node.face = nodes.map Node.face) : userInput? nodes' = userInput? nodes := by
  rw [← userInput?_face nodes', same, userInput?_face]

theorem isBlankText_userInput? {nodes : List Node} {text : String}
    (h : userInput? nodes = some text) : Text.isBlankText text = false := by
  unfold userInput? at h
  split at h
  · next input _ =>
    rw [← Option.some.inj h]
    have brace : '\x7b' ∈ (referenceTo input "user_input").toList := by
      rw [referenceTo, Template.braced, String.toList_ofList]
      exact List.mem_cons_self
    exact List.all_eq_false.2 ⟨_, brace, by decide⟩
  · cases h

theorem kept_fillNode (userInput? : Option String) (n : Node) :
    n.Kept userInput? (fillNode userInput? n) := by
  unfold fillNode
  cases found : userInput?.bind fun text => filledData? text n with
  | none => exact .refl _ n
  | some data =>
    obtain ⟨text, given, filled⟩ := Option.bind_eq_some_iff.1 found
    have lacks := lacks_of_filledData? filled
    rw [filledData?_of_lacks lacks] at filled
    cases filled
    have label : Members.getD (n.data.withUserInput text) "label" = Members.getD n.data "label" :=
      Members.getD_set_of_ne n.data _ (by decide)
    exact ⟨rfl, rfl, rfl, rfl, label, .inr ⟨text, given, lacks, .refl _⟩⟩

theorem kept_replaceReferences (userInput? : Option String) (newName : Reference → Option String)
    (w : Workflow) : w.Kept userInput? (replaceReferences newName w) := by
  refine ⟨?_, (Workflow.Kept.refl none w).edges⟩
  rw [replaceReferences, List.forall₂_map_right_iff, List.forall₂_same]
  intro n _
  exact ⟨rfl, rfl, rfl, rfl, Members.getD_mapTexts_label _ _,
    .inl ((Json.rewords_replace newName).data n.data)⟩

theorem kept_mended (userInput? : Option String) (w : Workflow) : w.Kept userInput? (mended w) := by
  refine ⟨(Workflow.Kept.refl userInput? w).nodes, List.sublistForall₂_iff.1 ?_⟩
  have entries : w.edges.zipIdx.map Prod.fst = w.edges := List.zipIdx_map_fst 0 w.edges
  have stems : List.SublistForall₂ (Edge.Stems w.nodes)
      (w.edges.zipIdx.filterMap (mendEdge? (edgeFlaws w))) (w.edges.zipIdx.map Prod.fst) := by
    refine sublistForall₂_filterMap fun entry mem after mends => ?_
    obtain ⟨l, kept, -, same, mended⟩ :=
      exists_of_mendEdge? (List.mem_zipIdx_iff_getElem?.1 mem) mends
    obtain ⟨source, target, -⟩ :=
      link?_eq_some_iff.1 (mem_links.1 (keptLinks_subset w kept)).2
    rw [← same]
    exact ⟨.inr (mended.source ▸ source), .inr (mended.target ▸ target), mended.sameId,
      mended.targetHandle, mended.extra⟩
  rw [edges_mended]
  rw [entries] at stems
  exact stems

theorem kept_settleExits (userInput? : Option String) (w : Workflow) :
    w.Kept userInput? { w with edges := (settleExits w).1 } := by
  refine ⟨(Workflow.Kept.refl userInput? w).nodes, w.edges, ?_, .refl _⟩
  have bare : List.Forall₂ (fun after before : Edge => after.bare = before.bare)
      (settleExits w).1 w.edges := by
    have same := map_bare_settleExits w
    rw [← List.forall₂_eq_eq_eq, List.forall₂_map_left_iff, List.forall₂_map_right_iff] at same
    exact same
  exact bare.imp fun _ _ => Edge.stems_of_bare

/-! ### Rounds -/

variable {fixer : Fixer} {options : FixOptions}

/-- The user input that a repair fills in, if it is to do so. -/
def filling? (options : FixOptions) (nodes : List Node) : Option String :=
  if options.fillUserInput then userInput? nodes else none

theorem filling?_of_face (options : FixOptions) {before after : List Node}
    (same : after.map Node.face = before.map Node.face) :
    filling? options after = filling? options before := by
  rw [filling?, filling?, userInput?_of_face same]

theorem isBlankText_filling? {nodes : List Node} {text : String}
    (h : filling? options nodes = some text) : Text.isBlankText text = false := by
  unfold filling? at h
  split at h
  · exact isBlankText_userInput? h
  · cases h

theorem kept_fillUserInput (w : Workflow) :
    w.Kept (userInput? w.nodes) (fillUserInput w).1 := by
  rw [fillUserInput_eq]
  refine ⟨?_, (Workflow.Kept.refl none w).edges⟩
  rw [List.forall₂_map_right_iff, List.forall₂_same]
  exact fun n _ => kept_fillNode _ n

theorem kept_prepare (noEnds : options.addTerminals = false) (w : Workflow) :
    w.Kept (filling? options w.nodes) (prepare options w) := by
  simp only [prepare, noEnds, Bool.false_eq_true, if_false]
  by_cases fill : options.fillUserInput = true
  · rw [if_pos fill, filling?, if_pos fill]
    exact kept_fillUserInput w
  · rw [if_neg fill]
    exact .refl _ w

theorem kept_finish {userInput? : Option String}
    (some : ∀ text, userInput? = some text → Text.isBlankText text = false)
    (policy : FuzzyPolicy) (options : FixOptions) (w : Workflow) :
    w.Kept userInput? (finish policy options w) := by
  have healed : w.Kept userInput? (healReferences policy w) := kept_replaceReferences _ _ w
  refine Workflow.Kept.trans some ?_ (kept_settleExits _ _)
  split
  · exact healed.trans some (kept_replaceReferences _ _ _)
  · exact healed

/-- After its first half a round keeps what there is. -/
theorem kept_of_round {userInput? : Option String}
    (some : ∀ text, userInput? = some text → Text.isBlankText text = false) {w : Workflow}
    {r : Round} (h : round fixer options w = .ok r) :
    (prepare options w).Kept userInput? r.workflow := by
  obtain ⟨s, structural, result⟩ := round_eq_ok h
  have settled : (prepare options w).Kept userInput? s.workflow := by
    rcases workflow_of_fixStructure structural with same | same
    · exact same ▸ .refl _ _
    · exact same ▸ kept_mended _ _
  rw [result]
  exact settled.trans some (kept_finish some _ _ _)

theorem kept_of_leads (noEnds : options.addTerminals = false) {w w' : Workflow}
    (h : Leads fixer options w w') : w.Kept (filling? options w.nodes) w' := by
  obtain ⟨r, round, rfl⟩ := h
  have some : ∀ text, filling? options w.nodes = some text → Text.isBlankText text = false :=
    fun _ => isBlankText_filling?
  exact (kept_prepare noEnds w).trans some (kept_of_round some round)

/-- Every round fills in the same user input, which is seen from the faces. -/
theorem kept_of_leadsIn (noEnds : options.addTerminals = false) {n : Nat} {w w' : Workflow}
    (h : LeadsIn fixer options n w w') : w.Kept (filling? options w.nodes) w' := by
  induction h with
  | none w => exact .refl _ w
  | more step _ ih =>
    have first := kept_of_leads noEnds step
    rw [filling?_of_face options first.face] at ih
    exact first.trans (fun _ => isBlankText_filling?) ih

end Repair

/-- A repair that adds no ends keeps the nodes and the edges, but for the wording of references,
user input that is lacking, and edges that are dropped or get their ends, ids and handles mended. -/
theorem Fixer.kept_of_fix {fixer : Fixer} {options : FixOptions} {w : Workflow} {o : FixOutcome}
    (noEnds : options.addTerminals = false) (run : fixer.fix options w = .ok o) :
    w.Kept (Repair.filling? options w.nodes) o.workflow := by
  rcases workflow_of_fix run with ⟨same, -⟩ | leads
  · rw [same]
    exact .refl _ w
  · exact Repair.kept_of_leadsIn noEnds leads

/-- A question that is answered by a model which refers to it by its id and has no user input; the
edge between them has no id and names the model in other case. -/
def Repair.unfilled : Workflow :=
  { nodes := [
      { id := "in", type := "input", data := [("label", .str "Question")] },
      { id := "m", type := "llm", data := [
          ("label", .str "Answer"), ("inputMappings", .str "none"),
          ("prompt", .str "Reply to \x7b\x7bin.user_input\x7d\x7d"),
          ("temperature", .num (.int 1))] }]
    edges := [{ source := "in", target := "M" }, { source := "in", target := "m" }] }

/-- The question and its answer after the repair. -/
def Repair.filled : Workflow :=
  { nodes := [
      { id := "in", type := "input", data := [("label", .str "Question")] },
      { id := "m", type := "llm", data := [
          ("label", .str "Answer"),
          ("inputMappings", .obj [("user_input", .str "\x7b\x7bQuestion.user_input\x7d\x7d")]),
          ("prompt", .str "Reply to \x7b\x7bQuestion.user_input\x7d\x7d"),
          ("temperature", .num (.int 1))] }]
    edges := [{ source := "in", target := "m", givenId := some "edge_in_m" }] }

theorem Repair.leads_unfilled : Leads ⟨{}, {}⟩ {} unfilled filled := by
  have round : (round ⟨{}, {}⟩ {} unfilled).toOption.map Round.workflow = some filled := by
    decide +kernel
  exact ok_of_toOption round

theorem Repair.leads_filled : Leads ⟨{}, {}⟩ {} filled filled := by
  have round : (round ⟨{}, {}⟩ {} filled).toOption.map Round.workflow = some filled := by
    decide +kernel
  exact ok_of_toOption round

theorem Fixer.kept_of_fix_unfilled :
    ∃ o, Fixer.fix ⟨{}, {}⟩ {} Repair.unfilled = .ok o ∧ o.workflow = Repair.filled ∧
      Repair.unfilled.Kept (some "\x7b\x7bQuestion.user_input\x7d\x7d") o.workflow := by
  have before : (Validator.reportOn {} Repair.unfilled).toOption.map Report.isValid =
      some false := by decide +kernel
  have after : (Validator.reportOn {} Repair.filled).toOption.map Report.count = some 0 := by
    decide +kernel
  obtain ⟨report, found, invalid⟩ := ok_of_toOption before
  obtain ⟨report', found', none⟩ := ok_of_toOption after
  obtain ⟨o, run, result⟩ := fix_of_leads found invalid Repair.leads_unfilled Repair.leads_filled
    found' (none ▸ Nat.zero_le _)
  have given : Repair.filling? {} Repair.unfilled.nodes =
      some "\x7b\x7bQuestion.user_input\x7d\x7d" := by decide +kernel
  exact ⟨o, run, result, given ▸ kept_of_fix rfl run⟩

end WorkflowRepair
