import WorkflowRepair.Validation.Issue
import WorkflowRepair.Validation.Rule
import WorkflowRepair.Workflow

/-!
Findings: a rule that a workflow breaks and the place where it does. They know no catalog; a catalog
gives them their wording.
-/

namespace WorkflowRepair

/-- A broken rule at a place. -/
structure Finding where
  rule : Rule
  location : Location := {}
deriving DecidableEq, Repr

namespace Finding

/-- A finding on the whole workflow. -/
def onGraph (rule : Rule) : Finding := ⟨rule, {}⟩

def onNode (rule : Rule) (id : String) (hint : Option String) : Finding :=
  ⟨rule, { nodeId := some id, hint := hint }⟩

def onField (rule : Rule) (id path : String) (hint : Option String) : Finding :=
  ⟨rule, { nodeId := some id, fieldPath := some path, hint := hint }⟩

def onEdge (rule : Rule) (edge : Edge) (hint : Option String) : Finding :=
  ⟨rule, { edgeId := edge.id, hint := hint }⟩

def onExit (rule : Rule) (edge : Edge) (path hint : Option String) : Finding :=
  ⟨rule, { nodeId := some edge.source, edgeId := edge.id, fieldPath := path, hint := hint }⟩

end Finding

end WorkflowRepair
