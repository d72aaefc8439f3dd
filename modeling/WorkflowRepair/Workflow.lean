import WorkflowRepair.Workflow.Node
import WorkflowRepair.Workflow.Edge

/-!
Workflows: nodes and edges in the order in which they were given. The edits at the end are those
that whoever holds a workflow makes on it between two calls; the validation makes none, and the
repairs have ways of their own to change a workflow.
-/

namespace WorkflowRepair

/-- A workflow graph. -/
structure Workflow where
  nodes : List Node := []
  edges : List Edge := []
deriving DecidableEq, Repr, Inhabited

/-- Why a document is no workflow. -/
inductive WorkflowError where
  | notArrays
  | notObject
deriving DecidableEq, Repr

namespace WorkflowError

def code : String := "workflow_parse_error"

def message : WorkflowError → String
  | .notArrays => "nodes/edges 必须是数组"
  | .notObject => "工作流必须是包含 nodes/edges 的对象"

end WorkflowError

namespace Workflow

/-- The workflow written as an array of nodes and an array of edges; missing edges are none. -/
def ofRaw (nodes edges : Json) : Except WorkflowError Workflow :=
  match nodes, edges with
  | .arr ns, .arr es => .ok ⟨ns.map Node.ofJson, es.map Edge.ofJson⟩
  | .arr ns, .null => .ok ⟨ns.map Node.ofJson, []⟩
  | _, _ => .error .notArrays

/-- The workflow written as an object. -/
def ofJson (payload : Json) : Except WorkflowError Workflow :=
  match payload with
  | .obj members => ofRaw (Members.getD members "nodes") (Members.getD members "edges")
  | _ => .error .notObject

def toMembers (w : Workflow) : Members :=
  [("nodes", .arr (w.nodes.map Node.toJson)), ("edges", .arr (w.edges.map Edge.toJson))]

def toJson (w : Workflow) : Json := .obj w.toMembers

def nodeIds (w : Workflow) : List String := (w.nodes.map Node.id).filter (· ≠ "")

/-- The first node with the id. -/
def node? (w : Workflow) (id : String) : Option Node := w.nodes.find? fun n => n.id = id

def nodesOfKind (w : Workflow) (kind : NodeKind) : List Node := w.nodes.filter (·.isKind kind)

/-! ### Edits between two calls -/

def addNode (w : Workflow) (node : Node) : Workflow := { w with nodes := w.nodes ++ [node] }

def addEdge (w : Workflow) (edge : Edge) : Workflow := { w with edges := w.edges ++ [edge] }

def removeNode (w : Workflow) (id : String) : Workflow :=
  { w with nodes := w.nodes.filter (·.id ≠ id) }

/-- Drops the edge at the place, if there is one. -/
def removeEdge (w : Workflow) (place : Nat) : Workflow :=
  { w with edges := w.edges.eraseIdx place }

def setData (w : Workflow) (id key : String) (value : Json) : Workflow :=
  { w with nodes := w.nodes.map fun n =>
      if n.id = id then { n with data := Members.set n.data key value } else n }

end Workflow

end WorkflowRepair
