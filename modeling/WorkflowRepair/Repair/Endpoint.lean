import WorkflowRepair.Template
import WorkflowRepair.Workflow

/-!
What an edge means by its ends. A name stands for a node by its id, by an id that differs in case
only and is the only such one, by its label, or by its label in normal form, in this order.
-/

namespace WorkflowRepair.Repair

/-- The nodes that have an id, of several with one id the first, after nodes with the given ids. -/
def distinctAfter (seen : List String) : List Node → List Node
  | [] => []
  | node :: rest =>
    if node.id = "" ∨ seen.contains node.id then distinctAfter seen rest
    else node :: distinctAfter (node.id :: seen) rest

/-- The nodes that have an id, of several with one id the first. -/
def distinctNodes (nodes : List Node) : List Node := distinctAfter [] nodes

/-- The only node whose id differs from the name in case alone. -/
def sameButCase? (nodes : List Node) (name : String) : Option Node :=
  match nodes.filter fun n => Text.lower n.id == Text.lower name with
  | [node] => some node
  | _ => none

/-- The first node with exactly the label. -/
def labelled? (nodes : List Node) (name : String) : Option String :=
  (nodes.find? fun n => n.isLabelled && n.label == name).map Node.id

/-- The first node with the label in normal form. -/
def normallyLabelled? (nodes : List Node) (name : String) : Option String :=
  (nodes.find? fun n =>
    n.isLabelled && Template.normalLabel n.label == Template.normalLabel name).map Node.id

/-- The id of the node that a name stands for among nodes with distinct ids. -/
def endpoint? (nodes : List Node) (name : String) : Option String :=
  if name = "" then none
  else if nodes.any fun n => n.id == name then some name
  else
    (sameButCase? nodes name).map Node.id <|> labelled? nodes name <|> normallyLabelled? nodes name

end WorkflowRepair.Repair
