import WorkflowRepair.Json
import WorkflowRepair.Workflow.Kind

/-!
Nodes of a workflow. Reading a node never fails: a part that is missing or of the wrong form is left
empty for the validation to report, and members that have no meaning here are kept and written back.
-/

namespace WorkflowRepair

/-- A place on the canvas; a place that cannot be read is absent and never a made-up zero. -/
structure Position where
  x : Number
  y : Number
deriving DecidableEq, Repr

namespace Position

/-- The place written in a document. -/
def ofJson? (raw : Json) : Option Position :=
  match raw.field "x", raw.field "y" with
  | .num x, .num y => some ⟨x, y⟩
  | _, _ => none

def toJson (p : Position) : Json := .obj [("x", .num p.x), ("y", .num p.y)]

end Position

/-- A node: its identity, its type text and an open bag of settings. -/
structure Node where
  id : String := ""
  type : String := ""
  data : Members := []
  position : Option Position := none
  extra : Members := []
deriving DecidableEq, Repr, Inhabited

namespace Node

/-- The members of a document that have a meaning for a node. -/
def knownKeys : List String := ["id", "type", "data", "position"]

def ofJson (raw : Json) : Node :=
  match raw with
  | .obj members =>
    { id := (Members.getD members "id").strD
      type := (Members.getD members "type").strD
      data := ((Members.getD members "data").obj?).getD []
      position := Position.ofJson? (Members.getD members "position")
      extra := Members.without members knownKeys }
  | _ => {}

def toJson (node : Node) : Json :=
  .obj ([("id", .str node.id), ("type", .str node.type), ("data", .obj node.data)]
    ++ (match node.position with
      | some p => [("position", p.toJson)]
      | none => [])
    ++ node.extra)

/-- The kind of the node, when its type text names one. -/
def kind (node : Node) : Option NodeKind := NodeKind.ofType? node.type

def isKind (node : Node) (kind : NodeKind) : Bool := node.kind == some kind

/-- The label of the node, empty when there is none. -/
def label (node : Node) : String := (Members.getD node.data "label").strD

def isLabelled (node : Node) : Bool := !Text.isBlankText node.label

/-- The name of the node in references and messages: its label, or else its id. -/
def displayName (node : Node) : String :=
  if node.isLabelled then Text.strip node.label else node.id

end Node

end WorkflowRepair
