import WorkflowRepair.Template
import WorkflowRepair.Validation.Finding

/-!
Rules on nodes as such. The nodes with a sound identity are the ones that all further rules look at:
an id and a type, no blank in the id, and of several nodes with one id the first.
-/

namespace WorkflowRepair.Validation

def identityFinding? (seen : List String) (node : Node) : Option Finding :=
  if node.id = "" ∨ node.type = "" then some (.onNode .nodeIdentity node.id none)
  else if node.id.toList.any Text.isBlank then
    some (.onNode .nodeIdentity node.id (some "节点 id 不能包含空白字符"))
  else if seen.contains node.id then some (.onNode .duplicateId node.id none)
  else none

/-- The findings on identities, after nodes with the given ids. -/
def identityFindings (seen : List String) : List Node → List Finding
  | [] => []
  | node :: rest =>
    match identityFinding? seen node with
    | some finding => finding :: identityFindings seen rest
    | none => identityFindings (node.id :: seen) rest

/-- The nodes with a sound identity, after nodes with the given ids. -/
def soundNodes (seen : List String) : List Node → List Node
  | [] => []
  | node :: rest =>
    match identityFinding? seen node with
    | some _ => soundNodes seen rest
    | none => node :: soundNodes (node.id :: seen) rest

def labelPath : String := "data.label"

def labelFindings (node : Node) : List Finding :=
  (if node.kind.isNone then [.onField .unknownType node.id "type" none] else [])
    ++ (if node.isLabelled then [] else [.onField .missingLabel node.id labelPath none])

/-- The beginnings of labels that are kept for ids of the system. -/
def reservedStarts : List String := ["node_", "edge_", "auto_"]

/-- Whether a normal label begins like an id of the system. -/
def isReserved (label : String) : Bool :=
  reservedStarts.any fun start => start.toList.isPrefixOf label.toList

/-- The normal labels that occur, each once, in order. -/
def normalLabels (nodes : List Node) : List String :=
  ((nodes.filter Node.isLabelled).map fun n => Template.normalLabel n.label).eraseDups

def idsLabelled (nodes : List Node) (label : String) : List String :=
  (nodes.filter fun n => n.isLabelled && Template.normalLabel n.label == label).map Node.id

/-- The findings on a normal label: reserved for each of its nodes, shared for the first. -/
def sharedLabelFindings (nodes : List Node) (label : String) : List Finding :=
  let ids := idsLabelled nodes label
  (if isReserved label then ids.map (.onField .reservedLabel · labelPath none) else [])
    ++ (match ids with
      | first :: _ :: _ => [.onField .duplicateLabel first labelPath none]
      | _ => [])

def namingFindings (nodes : List Node) : List Finding :=
  nodes.flatMap labelFindings ++ (normalLabels nodes).flatMap (sharedLabelFindings nodes)

/-- The findings on missing inputs and outputs. -/
def presenceFindings (nodes : List Node) : List Finding :=
  (if nodes.any (·.isKind .input) then [] else [.onGraph .noInput])
    ++ (if nodes.any (·.isKind .output) then [] else [.onGraph .noOutput])

end WorkflowRepair.Validation
