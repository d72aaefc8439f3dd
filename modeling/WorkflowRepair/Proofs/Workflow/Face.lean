import WorkflowRepair.Repair

/-!
The face of a node is what the rest of a workflow sees of it. Ends of edges, names in references,
the kinds of labels and the only input node are found by the faces of the nodes alone, so a change
of other data leaves them as they are.
-/

namespace WorkflowRepair

namespace Node

/-- What the rest of a workflow sees of a node: its identity, its type, its place and its label. -/
def face (n : Node) : Node := { n with data := [("label", .str n.label)], extra := [] }

@[simp] theorem face_id (n : Node) : n.face.id = n.id := rfl

@[simp] theorem face_kind (n : Node) : n.face.kind = n.kind := rfl

@[simp] theorem face_isKind (n : Node) (kind : NodeKind) : n.face.isKind kind = n.isKind kind := rfl

@[simp] theorem face_label (n : Node) : n.face.label = n.label := rfl

@[simp] theorem face_isLabelled (n : Node) : n.face.isLabelled = n.isLabelled := rfl

@[simp] theorem face_displayName (n : Node) : n.face.displayName = n.displayName := rfl

theorem face_eq_iff {n n' : Node} :
    n'.face = n.face ↔
      n'.id = n.id ∧ n'.type = n.type ∧ n'.position = n.position ∧ n'.label = n.label := by
  constructor
  · intro same
    have id : n'.face.id = n.face.id := by rw [same]
    have type : n'.face.type = n.face.type := by rw [same]
    have position : n'.face.position = n.face.position := by rw [same]
    have label : n'.face.label = n.face.label := by rw [same]
    exact ⟨id, type, position, label⟩
  · rintro ⟨id, type, position, label⟩
    simp only [face, id, type, position, label]

end Node

theorem map_face_map {nodes : List Node} {change : Node → Node}
    (same : ∀ n ∈ nodes, (change n).face = n.face) :
    (nodes.map change).map Node.face = nodes.map Node.face := by
  rw [List.map_map]
  exact List.map_congr_left same

namespace Repair

theorem distinctAfter_face (seen : List String) (nodes : List Node) :
    distinctAfter seen (nodes.map Node.face) = (distinctAfter seen nodes).map Node.face := by
  induction nodes generalizing seen with
  | nil => rfl
  | cons node rest ih =>
    simp only [List.map_cons, distinctAfter, Node.face_id, ih]
    split <;> rfl

theorem distinctNodes_face (nodes : List Node) :
    distinctNodes (nodes.map Node.face) = (distinctNodes nodes).map Node.face :=
  distinctAfter_face [] nodes

theorem sameButCase?_face (nodes : List Node) (name : String) :
    sameButCase? (nodes.map Node.face) name = (sameButCase? nodes name).map Node.face := by
  simp only [sameButCase?, List.filter_map, Function.comp_def, Node.face_id]
  cases nodes.filter fun n => Text.lower n.id == Text.lower name with
  | nil => rfl
  | cons node rest => cases rest <;> rfl

theorem endpoint?_face (nodes : List Node) :
    endpoint? (nodes.map Node.face) = endpoint? nodes := by
  funext name
  simp [endpoint?, sameButCase?_face, labelled?, normallyLabelled?, Function.comp_def]

theorem labels_face (nodes : List Node) : labels (nodes.map Node.face) = labels nodes := by
  simp [labels, List.filter_map, Function.comp_def]

theorem labelsOfKind_face (nodes : List Node) (kind : NodeKind) :
    labelsOfKind (nodes.map Node.face) kind = labelsOfKind nodes kind := by
  simp [labelsOfKind, List.filter_map, Function.comp_def]

theorem nodeNamed?_face (nodes : List Node) (name : String) :
    nodeNamed? (nodes.map Node.face) name = (nodeNamed? nodes name).map Node.face := by
  simp only [nodeNamed?, distinctNodes_face, sameButCase?_face, List.find?_map, Function.comp_def,
    Node.face_id]
  cases (distinctNodes nodes).find? fun n => n.id == name <;> rfl

theorem labelById?_face (nodes : List Node) (name : String) :
    labelById? (nodes.map Node.face) name = labelById? nodes name := by
  simp [labelById?, nodeNamed?_face, Option.filter_map, Function.comp_def]

/-- The match of a name depends on the faces alone. -/
theorem matchName?_face (policy : FuzzyPolicy) (nodes : List Node) :
    matchName? policy (nodes.map Node.face) = matchName? policy nodes := by
  funext name
  simp only [matchName?, matchByKind?, labelByForm?, nearestLabel, scores, labels_face,
    labelsOfKind_face, labelById?_face]

theorem healed?_face (policy : FuzzyPolicy) (nodes : List Node) :
    healed? policy (nodes.map Node.face) = healed? policy nodes := by
  funext reference
  simp only [healed?, matchName?_face]

theorem renamedField?_face (nodes : List Node) :
    renamedField? (nodes.map Node.face) = renamedField? nodes := by
  funext reference
  have kind : kindLabelled? (nodes.map Node.face) reference.name =
      kindLabelled? nodes reference.name := by
    simp [kindLabelled?, List.find?_map, Option.bind_map, Function.comp_def]
  simp only [renamedField?, kind]

end Repair

end WorkflowRepair
