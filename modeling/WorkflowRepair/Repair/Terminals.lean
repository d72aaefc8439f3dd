import WorkflowRepair.Repair.FreshName
import WorkflowRepair.Template
import WorkflowRepair.Workflow

/-!
The two ends of a workflow. A missing input node is put in front and leads to every processing node
that nothing leads to; a missing output node is put at the end, shows what the last suitable node
yields, and is led to from every node that leads nowhere. Ids, labels and edges that exist are not
repeated.
-/

namespace WorkflowRepair.Repair

/-- What each kind of node yields, in the order in which an output looks for something to show. -/
def yields : List (NodeKind × String) := [
  (.llm, "response"), (.rag, "documents"), (.tool, "result"), (.imagegen, "imageUrl"),
  (.input, "user_input")]

def referenceTo (node : Node) (field : String) : String :=
  Template.braced (node.displayName ++ "." ++ field)

/-- The reference that a new output node shows: to the last node with an id of the first kind. -/
def shownReference (w : Workflow) : String :=
  let found := yields.findSome? fun (kind, field) =>
    ((w.nodesOfKind kind).filter fun n => n.id ≠ "").getLast?.map fun n => referenceTo n field
  found.getD (Template.braced "response")

def newInput (id label : String) : Node :=
  { id := id, type := NodeKind.input.name, data := [("label", .str label)] }

def newOutput (id label shown : String) : Node :=
  { id := id
    type := NodeKind.output.name
    data := [("label", .str label),
      ("inputMappings", .obj [("mode", .str "select"),
        ("sources", .arr [.obj [("type", .str "variable"), ("value", .str shown)]])])] }

/-- The ends of the edges between nodes of the workflow. -/
def knownPairs (w : Workflow) : List (String × String) :=
  let ids := w.nodeIds
  (w.edges.map Edge.pair).filter fun p => ids.contains p.1 && ids.contains p.2

/-- The ids that a new input leads to: processing nodes without an edge into them. -/
def entryIds (w : Workflow) : List String :=
  let pairs := knownPairs w
  ((w.nodes.filter fun n => n.id ≠ "" && !n.isKind .input && !n.isKind .output
    && !pairs.any fun p => p.2 == n.id).map Node.id).eraseDups

/-- The ids that lead to a new output: nodes besides outputs without an edge out of them. -/
def exitIds (w : Workflow) : List String :=
  let pairs := knownPairs w
  ((w.nodes.filter fun n => n.id ≠ "" && !n.isKind .output
    && !pairs.any fun p => p.1 == n.id).map Node.id).eraseDups

/-- A workflow with both of its ends, and what was added. -/
structure Completion where
  workflow : Workflow
  fixes : List String := []
  inputId : Option String := none
  outputId : Option String := none
deriving DecidableEq, Repr

/-- The new input node for a workflow that has none. -/
def inputFor? (w : Workflow) : Option Node :=
  if w.nodes.any (·.isKind .input) then none
  else some (newInput (freshName "auto_input" "_" w.nodeIds)
    (freshName "用户输入" "" (w.nodes.map Node.label)))

/-- The new output node for a workflow that has none, beside the given ids and labels. -/
def outputFor? (w : Workflow) (added : Option Node) : Option Node :=
  if w.nodes.any (·.isKind .output) then none
  else some (newOutput (freshName "auto_output" "_" (w.nodeIds ++ added.toList.map Node.id))
    (freshName "最终输出" "" (w.nodes.map Node.label ++ added.toList.map Node.label))
    (shownReference w))

/-- Leads the input to every entry. -/
def connectInput (w : Workflow) (input : Option Node) : Workflow :=
  match input with
  | none => w
  | some node =>
    { w with edges := w.edges ++ (entryIds w).map fun id => { source := node.id, target := id } }

/-- Leads every exit to the output. -/
def connectOutput (w : Workflow) (output : Option Node) : Workflow :=
  match output with
  | none => w
  | some node =>
    { w with edges := w.edges ++ (exitIds w).map fun id => { source := id, target := node.id } }

/-- Adds the ends that a workflow lacks and connects them. -/
def complete (w : Workflow) : Completion :=
  let input := inputFor? w
  let output := outputFor? w input
  let extended := { w with nodes := input.toList ++ w.nodes ++ output.toList }
  { workflow := connectOutput (connectInput extended input) output
    fixes := (input.toList.map fun _ => "已自动补齐 Input 节点")
      ++ (output.toList.map fun _ => "已自动补齐 Output 节点")
    inputId := input.map Node.id
    outputId := output.map Node.id }

end WorkflowRepair.Repair
