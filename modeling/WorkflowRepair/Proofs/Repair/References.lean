import WorkflowRepair.Proofs.Repair.Mending
import WorkflowRepair.Proofs.Template.Reading
import WorkflowRepair.Proofs.Template.Wording
import WorkflowRepair.Proofs.Workflow.Face

/-!
References stay as they were repaired. What is put in for a name is a label with a path behind it;
an ordinary label is read back as the name, so the next repair finds a label there and nothing to
do.
-/

namespace WorkflowRepair

open Template (IsBody IsPath Piece pieces replace Fits)

/-! ### Texts -/

namespace Json

variable {f g : String → String}

mutual

theorem mapTexts_mapTexts : (j : Json) → (j.mapTexts g).mapTexts f = j.mapTexts (f ∘ g)
  | .str _ => rfl
  | .obj members => congrArg Json.obj (mapTextsMembers_mapTexts members)
  | .arr items => congrArg Json.arr (mapTextsItems_mapTexts items)
  | .null => rfl
  | .bool _ => rfl
  | .num _ => rfl

theorem mapTextsMembers_mapTexts : (members : List (String × Json)) →
    mapTextsMembers f (mapTextsMembers g members) = mapTextsMembers (f ∘ g) members
  | [] => rfl
  | (key, j) :: rest => by
    simp only [mapTextsMembers, mapTexts_mapTexts j, mapTextsMembers_mapTexts rest]

theorem mapTextsItems_mapTexts : (items : List Json) →
    mapTextsItems f (mapTextsItems g items) = mapTextsItems (f ∘ g) items
  | [] => rfl
  | j :: rest => by
    simp only [mapTextsItems, mapTexts_mapTexts j, mapTextsItems_mapTexts rest]

end

end Json

theorem Members.mapTexts_mapTexts {f g : String → String} (data : Members) :
    mapTexts f (mapTexts g data) = mapTexts (f ∘ g) data := by
  rw [mapTexts, mapTexts, List.map_map]
  refine List.map_congr_left fun m _ => ?_
  by_cases label : m.1 = "label"
  · simp [label]
  · simp [label, Json.mapTexts_mapTexts]

namespace Repair

variable {nodes : List Node} {policy : FuzzyPolicy}

/-- No reference in the text is replaced. -/
def Leaves (newName : Reference → Option String) (text : String) : Prop :=
  ∀ p ∈ pieces text.toList, p.reference?.bind newName = none

theorem Leaves.replace_eq {newName : Reference → Option String} {text : String}
    (h : Leaves newName text) : replace newName text = text :=
  Template.replace_eq_self h

/-! ### What is put in -/

theorem mem_labels {label : String} :
    label ∈ labels nodes ↔ ∃ n ∈ nodes, n.isLabelled = true ∧ n.label = label := by
  simp [labels, and_assoc]

theorem mem_labels_of_labelsOfKind {kind : NodeKind} {label : String}
    (h : label ∈ labelsOfKind nodes kind) : label ∈ labels nodes := by
  simp only [labelsOfKind, List.mem_map, List.mem_filter, Bool.and_eq_true] at h
  obtain ⟨n, ⟨mem, labelled, -⟩, same⟩ := h
  exact mem_labels.2 ⟨n, mem, labelled, same⟩

theorem mem_of_sameButCase? {name : String} {n : Node} (h : sameButCase? nodes name = some n) :
    n ∈ nodes := by
  unfold sameButCase? at h
  split at h
  · next alone =>
    have only : n ∈ nodes.filter fun n => Text.lower n.id == Text.lower name := by
      rw [alone, Option.some.inj h]
      exact List.mem_singleton_self n
    exact (List.mem_filter.1 only).1
  · cases h

theorem mem_labels_of_labelById? {name label : String} (h : labelById? nodes name = some label) :
    label ∈ labels nodes := by
  obtain ⟨n, found, same⟩ := Option.map_eq_some_iff.1 h
  rw [Option.filter_eq_some_iff] at found
  obtain ⟨named, labelled⟩ := found
  refine mem_labels.2 ⟨n, distinctNodes_subset nodes ?_, labelled, same⟩
  unfold nodeNamed? at named
  cases exactly : (distinctNodes nodes).find? fun n => n.id == name with
  | some node =>
    simp only [exactly, Option.some.injEq] at named
    exact named ▸ List.mem_of_find?_eq_some exactly
  | none =>
    simp only [exactly] at named
    exact mem_of_sameButCase? named

theorem mem_labels_of_labelByForm? {name label : String}
    (h : labelByForm? nodes name = some label) : label ∈ labels nodes :=
  List.mem_of_find?_eq_some h

theorem mem_labels_of_nearestLabel {name label : String}
    (h : (nearestLabel policy nodes name).certain? = some label) : label ∈ labels nodes := by
  unfold nearestLabel at h
  simp only at h
  split at h
  · cases h
  · next best _ =>
    split at h
    · cases h
    · next only alone =>
      have nearest : only ∈ ((scores nodes (Template.normalLabel name)).filter
          fun s => s.1 == best).map Prod.snd := by
        rw [alone]
        exact List.mem_singleton_self only
      have same : only = label := by
        split at h
        · exact Option.some.inj h
        · cases h
      obtain ⟨score, inside, rfl⟩ := List.mem_map.1 nearest
      obtain ⟨other, known, rfl⟩ := List.mem_map.1 (List.mem_filter.1 inside).1
      exact same ▸ known
    · cases h

theorem mem_labels_of_matchByKind? {name label : String} {found : NameMatch}
    (h : matchByKind? nodes name = some found) (certain : found.certain? = some label) :
    label ∈ labels nodes := by
  unfold matchByKind? at h
  split at h
  · cases h
  · next kind _ =>
    split at h
    · cases h
    · next only alone =>
      cases h
      cases certain
      have listed : label ∈ labelsOfKind nodes kind := by
        rw [alone]
        exact List.mem_singleton_self label
      exact mem_labels_of_labelsOfKind listed
    · split at h
      · next form =>
        cases h
        cases certain
        exact mem_labels_of_labelByForm? form
      · cases h
        cases certain

/-- A certain match is a label. -/
theorem mem_labels_of_certain {name label : String} {found : NameMatch}
    (h : matchName? policy nodes name = some found) (certain : found.certain? = some label) :
    label ∈ labels nodes := by
  unfold matchName? at h
  split at h
  · cases h
  · split at h
    · next byId =>
      cases h
      cases certain
      exact mem_labels_of_labelById? byId
    · split at h
      · next byKind =>
        cases h
        exact mem_labels_of_matchByKind? byKind certain
      · split at h
        · next form =>
          cases h
          cases certain
          exact mem_labels_of_labelByForm? form
        · cases h
          exact mem_labels_of_nearestLabel certain

/-- Whatever is put in for a reference is a label and a path that may stand behind it. -/
def PutsLabels (nodes : List Node) (behind : Reference → String → Prop)
    (newName : Reference → Option String) : Prop :=
  ∀ reference expression, newName reference = some expression →
    ∃ label ∈ labels nodes, ∃ path, behind reference path ∧ expression = label ++ path

theorem putsLabels_healed? (policy : FuzzyPolicy) (nodes : List Node) :
    PutsLabels nodes (fun reference path => path = reference.path) (healed? policy nodes) := by
  intro reference expression new
  obtain ⟨label, found, rfl⟩ := Option.map_eq_some_iff.1 new
  obtain ⟨name, matched, certain⟩ := Option.bind_eq_some_iff.1 found
  exact ⟨label, mem_labels_of_certain matched certain, reference.path, rfl, rfl⟩

/-- The paths that take the place of others. -/
def aliasedPaths : List String := [".user_input", ".response"]

theorem fieldAlias?_mem {kind : NodeKind} {path path' : String}
    (h : fieldAlias? kind path = some path') : path' ∈ aliasedPaths := by
  unfold fieldAlias? at h
  split at h
  · cases h
    exact List.mem_cons_self
  · cases h
    exact List.mem_cons_of_mem _ List.mem_cons_self
  · cases h

theorem fieldAlias?_aliased {kind : NodeKind} {path : String} (h : path ∈ aliasedPaths) :
    fieldAlias? kind path = none := by
  have cases : path = ".user_input" ∨ path = ".response" := by simpa [aliasedPaths] using h
  rcases cases with rfl | rfl
  · cases kind <;> decide
  · cases kind <;> decide

theorem putsLabels_renamedField? (nodes : List Node) :
    PutsLabels nodes (fun _ path => path ∈ aliasedPaths) (renamedField? nodes) := by
  intro reference expression new
  obtain ⟨path, found, rfl⟩ := Option.map_eq_some_iff.1 new
  obtain ⟨kind, named, aliased⟩ := Option.bind_eq_some_iff.1 found
  obtain ⟨n, first, -⟩ := Option.bind_eq_some_iff.1 named
  have mem := List.mem_of_find?_eq_some first
  have given := List.find?_some first
  simp only [Bool.and_eq_true, beq_iff_eq] at given
  have known : reference.name ∈ labels nodes := mem_labels.2 ⟨n, mem, given.1.1, given.1.2⟩
  exact ⟨reference.name, known, path, fieldAlias?_mem aliased, rfl⟩

/-- A name comes to something unless it is empty or a label. -/
theorem matchName?_eq_none_iff {name : String} :
    matchName? policy nodes name = none ↔ name = "" ∨ name ∈ labels nodes := by
  rw [← List.contains_iff_mem, matchName?]
  constructor
  · intro h
    split at h
    · next settled => exact settled
    · split at h
      · cases h
      · split at h
        · cases h
        · split at h
          · cases h
          · cases h
  · intro settled
    rw [if_pos settled]

theorem healed?_of_mem_labels {reference : Reference} (h : reference.name ∈ labels nodes) :
    healed? policy nodes reference = none := by
  rw [healed?, matchName?_eq_none_iff.2 (.inr h)]
  rfl

theorem renamedField?_of_mem_aliasedPaths {reference : Reference}
    (h : reference.path ∈ aliasedPaths) : renamedField? nodes reference = none := by
  unfold renamedField?
  cases kindLabelled? nodes reference.name with
  | none => rfl
  | some kind => rw [Option.bind_some, fieldAlias?_aliased h, Option.map_none]

/-! ### Reading it back -/

/-- All labels that are not blank are ordinary. -/
def OrdinaryLabels (nodes : List Node) : Prop :=
  ∀ n ∈ nodes, n.isLabelled = true → OrdinaryLabel n.label

theorem isPath_of_mem_aliasedPaths {path : String} (h : path ∈ aliasedPaths) :
    IsPath path.toList := by
  have cases : path = ".user_input" ∨ path = ".response" := by simpa [aliasedPaths] using h
  rcases cases with rfl | rfl
  · exact Template.isPath_of_ends (by decide) rfl rfl rfl rfl
  · exact Template.isPath_of_ends (by decide) rfl rfl rfl rfl

/-- The path of a reference may stand behind the label that is put in for its name. -/
theorem paths_healed? (body : List Char) (reference : Reference) (inside : IsBody body)
    (read : Reference.ofBody? body = some reference) (path : String)
    (same : path = reference.path) : IsPath path.toList :=
  same ▸ Template.isPath_of_ofBody? inside read

section ReadBack

variable {behind : Reference → String → Prop} {newName f : Reference → Option String}
  (ordinary : OrdinaryLabels nodes)
  (paths : ∀ body reference, IsBody body → Reference.ofBody? body = some reference →
    ∀ path, behind reference path → IsPath path.toList)
  (puts : PutsLabels nodes behind newName)

include ordinary paths puts

/-- What is put in is read back with a label as its name. -/
theorem readBack {body : List Char} {reference : Reference} {expression : String}
    (inside : IsBody body) (read : Reference.ofBody? body = some reference)
    (new : newName reference = some expression) :
    IsBody expression.toList ∧
      ∃ label ∈ labels nodes, ∃ path, behind reference path ∧
        Reference.ofBody? expression.toList = some ⟨expression, label, path⟩ := by
  obtain ⟨label, known, path, follows, rfl⟩ := puts reference expression new
  obtain ⟨n, mem, labelled, rfl⟩ := mem_labels.1 known
  have plain := ordinary n mem labelled
  have filled : Text.isBlankText n.label = false := by simpa [Node.isLabelled] using labelled
  have isPath := paths body reference inside read path follows
  exact ⟨Template.isBody_renamed plain filled isPath, n.label, known, path, follows,
    Template.ofBody?_renamed plain filled isPath⟩

theorem fits : Fits newName := by
  intro body reference expression inside read new
  exact (readBack ordinary paths puts inside read new).1

/-- A replacement leaves a new text alone when it leaves alone what was put in and, in the old text,
what was not replaced: a piece of the new text is one of the two. -/
theorem leaves_replace {text : String}
    (put : ∀ reference path expression label, behind reference path → label ∈ labels nodes →
      f ⟨expression, label, path⟩ = none)
    (left : ∀ p ∈ pieces text.toList, ∀ reference, p.reference? = some reference →
      newName reference = none → f reference = none) :
    Leaves f (replace newName text) := by
  intro p mem
  rw [Template.pieces_replace (fits ordinary paths puts)] at mem
  obtain ⟨old, here, rfl⟩ := List.mem_map.1 mem
  have proper := Template.proper_of_mem_pieces old here
  unfold Piece.rewritten
  cases read : old.reference? with
  | none => simp [read]
  | some reference =>
    cases new : newName reference with
    | none => simpa [read, new] using left old here reference read new
    | some expression =>
      cases old with
      | char c => cases read
      | slot body =>
        obtain ⟨-, label, known, path, follows, back⟩ :=
          readBack ordinary paths puts proper read new
        have again : (Piece.slot expression.toList).reference? =
            some ⟨expression, label, path⟩ := back
        simp [again, new, put reference path expression label follows known]

end ReadBack

section Repaired

variable (ordinary : OrdinaryLabels nodes)

include ordinary

theorem leaves_healed (text : String) :
    Leaves (healed? policy nodes) (replace (healed? policy nodes) text) := by
  refine leaves_replace ordinary paths_healed? (putsLabels_healed? policy nodes) ?_ ?_
  · intro reference path expression label _ known
    exact healed?_of_mem_labels known
  · intro p _ reference _ new
    exact new

theorem leaves_renamed (text : String) :
    Leaves (renamedField? nodes) (replace (renamedField? nodes) text) := by
  refine leaves_replace ordinary ?_ (putsLabels_renamedField? nodes) ?_ ?_
  · intro body reference _ _ path mem
    exact isPath_of_mem_aliasedPaths mem
  · intro reference path expression label mem _
    exact renamedField?_of_mem_aliasedPaths mem
  · intro p _ reference _ new
    exact new

/-- The renaming of fields brings up no name that is to be repaired. -/
theorem leaves_healed_renamed {text : String} (repaired : Leaves (healed? policy nodes) text) :
    Leaves (healed? policy nodes) (replace (renamedField? nodes) text) := by
  refine leaves_replace ordinary ?_ (putsLabels_renamedField? nodes) ?_ ?_
  · intro body reference _ _ path mem
    exact isPath_of_mem_aliasedPaths mem
  · intro reference path expression label _ known
    exact healed?_of_mem_labels known
  · intro p mem reference read _
    simpa [read] using repaired p mem

end Repaired

/-! ### Nodes -/

/-- What the second half of a round does to a text. -/
def wording (policy : FuzzyPolicy) (options : FixOptions) (nodes : List Node) : String → String :=
  if options.renameFields then replace (renamedField? nodes) ∘ replace (healed? policy nodes)
  else replace (healed? policy nodes)

theorem wording_wording (ordinary : OrdinaryLabels nodes) (policy : FuzzyPolicy)
    (options : FixOptions) (text : String) :
    wording policy options nodes (wording policy options nodes text) =
      wording policy options nodes text := by
  have repaired : Leaves (healed? policy nodes) (replace (healed? policy nodes) text) :=
    leaves_healed ordinary text
  unfold wording
  split
  · have once := leaves_healed_renamed ordinary repaired
    have renamed := leaves_renamed ordinary (replace (healed? policy nodes) text)
    rw [Function.comp_apply, Function.comp_apply, once.replace_eq, renamed.replace_eq]
  · exact repaired.replace_eq

/-- The nodes with their texts as the second half of a round leaves them. -/
def rewordNodes (policy : FuzzyPolicy) (options : FixOptions) (nodes : List Node) : List Node :=
  nodes.map fun n => { n with data := Members.mapTexts (wording policy options nodes) n.data }

theorem map_face_mapTexts (f : String → String) (nodes : List Node) :
    (nodes.map fun n => { n with data := Members.mapTexts f n.data }).map Node.face =
      nodes.map Node.face := by
  refine map_face_map fun n _ => Node.face_eq_iff.2 ⟨rfl, rfl, rfl, ?_⟩
  rw [Node.label, Node.label, Members.getD_mapTexts_label]

theorem face_healReferences (policy : FuzzyPolicy) (w : Workflow) :
    (healReferences policy w).nodes.map Node.face = w.nodes.map Node.face :=
  map_face_mapTexts _ w.nodes

/-- Texts that are changed once stay as they are. -/
theorem map_mapTexts_again {f : String → String} (again : ∀ text, f (f text) = f text)
    (nodes : List Node) :
    (nodes.map fun n => { n with data := Members.mapTexts f n.data }).map
        (fun n => { n with data := Members.mapTexts f n.data }) =
      nodes.map fun n => { n with data := Members.mapTexts f n.data } := by
  rw [List.map_map]
  refine List.map_congr_left fun n _ => ?_
  have twice : f ∘ f = f := funext again
  simp only [Function.comp_apply, Members.mapTexts_mapTexts, twice]

theorem wording_of_face {nodes' : List Node} (policy : FuzzyPolicy) (options : FixOptions)
    (same : nodes'.map Node.face = nodes.map Node.face) :
    wording policy options nodes' = wording policy options nodes := by
  rw [wording, wording, ← healed?_face policy nodes', ← renamedField?_face nodes', same,
    healed?_face, renamedField?_face]

/-- Repaired references stay as they are. -/
theorem rewordNodes_rewordNodes (ordinary : OrdinaryLabels nodes) (policy : FuzzyPolicy)
    (options : FixOptions) :
    rewordNodes policy options (rewordNodes policy options nodes) =
      rewordNodes policy options nodes := by
  have faces : (rewordNodes policy options nodes).map Node.face = nodes.map Node.face :=
    map_face_mapTexts _ nodes
  rw [rewordNodes, wording_of_face policy options faces, rewordNodes]
  exact map_mapTexts_again (wording_wording ordinary policy options) nodes

theorem nodes_finish (policy : FuzzyPolicy) (options : FixOptions) (w : Workflow) :
    (finish policy options w).nodes = rewordNodes policy options w.nodes := by
  have sameFields : renamedField? (healReferences policy w).nodes = renamedField? w.nodes := by
    rw [← renamedField?_face (healReferences policy w).nodes, face_healReferences,
      renamedField?_face]
  simp only [finish, rewordNodes, wording]
  split
  · simp only [renameFields, sameFields]
    simp only [replaceReferences, healReferences, List.map_map, Function.comp_def,
      Members.mapTexts_mapTexts]
  · rfl

theorem edges_finish (policy : FuzzyPolicy) (options : FixOptions) (w : Workflow) :
    (finish policy options w).edges =
      (settleExits ⟨rewordNodes policy options w.nodes, w.edges⟩).1 := by
  rw [← nodes_finish]
  simp only [finish]
  split <;> rfl

end Repair

end WorkflowRepair
