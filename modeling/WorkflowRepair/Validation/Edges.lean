import WorkflowRepair.Graph.BackEdge
import WorkflowRepair.Graph.Reachable
import WorkflowRepair.Validation.Finding

/-!
Rules on edges and on the graph they form. Only edges between nodes of sound identity take part in
the graph; repeated ones do take part.
-/

namespace WorkflowRepair

instance : Arc Edge := ⟨Edge.source, Edge.target⟩

namespace Validation

def knows (nodes : List Node) (id : String) : Bool := nodes.any fun n => n.id == id

/-- Whether the first node with the id is of the kind. -/
def hasKind (nodes : List Node) (id : String) (kind : NodeKind) : Bool :=
  match nodes.find? fun n => n.id == id with
  | some node => node.isKind kind
  | none => false

/-- What is wrong with the ends of an edge. -/
def endpointFinding? (nodes : List Node) (edge : Edge) : Option Finding :=
  if edge.source = "" ∨ edge.target = "" then some (.onEdge .edgeEnds edge none)
  else if !knows nodes edge.source then
    some (.onEdge .unknownEndpoint edge (some ("节点不存在: " ++ edge.source)))
  else if !knows nodes edge.target then
    some (.onEdge .unknownEndpoint edge (some ("节点不存在: " ++ edge.target)))
  else none

def soundEdges (nodes : List Node) (edges : List Edge) : List Edge :=
  edges.filter fun e => (endpointFinding? nodes e).isNone

/-- Two ends with an arrow between them. -/
def arrow (source target : String) : String := source ++ " → " ++ target

/-- The findings on repeated edges and on handles of edges that leave no branch. -/
def connectionFindings (nodes : List Node) (seen : List (String × String)) :
    List Edge → List Finding
  | [] => []
  | edge :: rest =>
    (if seen.contains edge.pair then
        [.onExit .duplicateEdge edge none (some (arrow edge.source edge.target))] else [])
      ++ (if edge.hasHandle && !hasKind nodes edge.source .branch then
        [.onExit .strayHandle edge (some "sourceHandle") none] else [])
      ++ connectionFindings nodes (edge.pair :: seen) rest

def edgeFindings (nodes : List Node) (edges : List Edge) : List Finding :=
  edges.filterMap (endpointFinding? nodes) ++ connectionFindings nodes [] (soundEdges nodes edges)

def usesBothExits (edges : List Edge) : Bool :=
  edges.any (·.exit? == some .yes) && edges.any (·.exit? == some .no)

def exitFindings (edges : List Edge) (node : Node) : List Finding :=
  let leaving := Arc.leaving edges node.id
  if leaving.length ≠ 2 then
    [.onNode .branchExits node.id (some ("当前出边数: " ++ toString leaving.length))]
  else if !usesBothExits leaving then [.onField .branchHandles node.id "sourceHandle" none]
  else []

/-- The finding on a branch without a condition. -/
def conditionFindings (node : Node) : List Finding :=
  if (Members.getD node.data "condition").isSet then []
  else [.onField .branchCondition node.id "data.condition" none]

def branchFindings (profile : Profile) (nodes : List Node) (edges : List Edge) : List Finding :=
  (nodes.filter (·.isKind .branch)).flatMap fun node =>
    exitFindings edges node ++ (if profile = .generated then conditionFindings node else [])

/-- The first branch both exits of which lead straight to the target. -/
def meetingBranch? (edges : List Edge) (target : String) : Option String :=
  let into := edges.filter fun e => e.target == target
  (into.map Edge.source).find? fun id => usesBothExits (Arc.leaving into id)

/-- The findings on nodes at which both exits of a branch meet, in the order in which branches first
lead to them; outputs are free to be such nodes. -/
def meetingFindings (nodes : List Node) (edges : List Edge) : List Finding :=
  let exits := edges.filter fun e => hasKind nodes e.source .branch
  (exits.map Edge.target).eraseDups.filterMap fun target =>
    if hasKind nodes target .output then none
    else (meetingBranch? exits target).map fun id =>
      .onNode .branchesMeet target (some ("互斥分支不应在非 Output 节点汇聚（来源分支: " ++ id ++ "）"))

/-- The finding on a cycle, placed on the edge that closes it. -/
def cycleFindings (nodes : List Node) (edges : List Edge) : List Finding :=
  match Graph.backEdge? (nodes.map Node.id) edges with
  | some edge => [.onExit .cycle edge none (some ("闭合边: " ++ arrow edge.source edge.target))]
  | none => []

def idsOfKind (nodes : List Node) (kind : NodeKind) : List String :=
  (nodes.filter (·.isKind kind)).map Node.id

/-- The nodes without a way from the inputs and to the outputs. -/
def orphanFindings (nodes : List Node) (edges : List Edge) : List Finding :=
  match Graph.coverage? (idsOfKind nodes .input) (idsOfKind nodes .output) edges nodes.length with
  | none => []
  | some coverage =>
    (nodes.filter fun n => !coverage.holds n.id).map fun n => .onNode .orphan n.id none

end Validation

end WorkflowRepair
