/-!
The rules that a workflow is held to, each with its stable code, and the two profiles of rules: the
structural rules always apply, the rules for generated workflows come on top of them.
-/

namespace WorkflowRepair

/-- A set of rules to hold a workflow to. -/
inductive Profile where
  | structural
  | generated
deriving DecidableEq, Repr

namespace Profile

def all : List Profile := [.structural, .generated]

def name : Profile → String
  | .structural => "structure"
  | .generated => "generated"

def ofName? (name : String) : Option Profile := all.find? fun p => p.name = name

def includes : Profile → Profile → Bool
  | .generated, _ => true
  | .structural, other => other == .structural

end Profile

/-- A rule of the validation. -/
inductive Rule where
  | noNodes
  | notArrays
  | nodeIdentity
  | duplicateId
  | missingLabel
  | duplicateLabel
  | reservedLabel
  | unknownType
  | edgeEnds
  | cycle
  | unknownEndpoint
  | duplicateEdge
  | orphan
  | branchExits
  | branchHandles
  | strayHandle
  | branchesMeet
  | branchCondition
  | retrieval
  | noInput
  | noOutput
  | llmSettings
  | llmInput
  | toolType
  | outputMode
  | outputSources
  | inputForm
  | unresolvedReference
deriving DecidableEq, Repr

def Rule.code : Rule → String
  | .noNodes => "FFV-SCHEMA-001"
  | .notArrays => "FFV-SCHEMA-002"
  | .nodeIdentity => "FFV-NODE-001"
  | .duplicateId => "FFV-NODE-002"
  | .missingLabel => "FFV-NODE-003"
  | .duplicateLabel => "FFV-NODE-004"
  | .reservedLabel => "FFV-NODE-005"
  | .unknownType => "FFV-NODE-006"
  | .edgeEnds => "FFV-EDGE-001"
  | .cycle => "FFV-STRUCT-001"
  | .unknownEndpoint => "FFV-STRUCT-002"
  | .duplicateEdge => "FFV-STRUCT-003"
  | .orphan => "FFV-STRUCT-004"
  | .branchExits => "FFV-BRANCH-001"
  | .branchHandles => "FFV-BRANCH-002"
  | .strayHandle => "FFV-BRANCH-003"
  | .branchesMeet => "FFV-BRANCH-004"
  | .branchCondition => "FFV-BRANCH-005"
  | .retrieval => "FFV-RAG-001"
  | .noInput => "FFV-GRAPH-001"
  | .noOutput => "FFV-GRAPH-002"
  | .llmSettings => "FFV-LLM-001"
  | .llmInput => "FFV-LLM-002"
  | .toolType => "FFV-TOOL-001"
  | .outputMode => "FFV-OUTPUT-001"
  | .outputSources => "FFV-OUTPUT-002"
  | .inputForm => "FFV-INPUT-001"
  | .unresolvedReference => "FFV-VAR-001"

end WorkflowRepair
