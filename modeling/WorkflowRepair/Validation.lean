import WorkflowRepair.Catalog.Standard
import WorkflowRepair.Validation.Nodes
import WorkflowRepair.Validation.Edges
import WorkflowRepair.Validation.Settings
import WorkflowRepair.Validation.References

/-!
Validation of a workflow: all rules of a profile are applied, none stops another, and the findings
come in a fixed order. A validator joins a profile with the catalog that words the findings.
-/

namespace WorkflowRepair

namespace Validation

def findings (profile : Profile) (nodes : List Node) (edges : List Edge) :
    Except Fault (List Finding) :=
  if nodes.isEmpty then .ok [.onGraph .noNodes]
  else
    let sound := soundNodes [] nodes
    let links := soundEdges sound edges
    match allNodeFindings profile sound with
    | .error fault => .error fault
    | .ok settings =>
      .ok (identityFindings [] nodes
        ++ (if profile = .generated then namingFindings sound ++ presenceFindings sound else [])
        ++ edgeFindings sound edges
        ++ branchFindings profile sound links
        ++ meetingFindings sound links
        ++ cycleFindings sound links
        ++ orphanFindings sound links
        ++ settings
        ++ (if profile = .generated then referenceFindings sound else []))

end Validation

def Catalog.issueOf (catalog : Catalog) (finding : Finding) : Issue :=
  catalog.issue finding.rule.code finding.location

/-- A catalog and a profile to hold workflows to. -/
structure Validator where
  catalog : Catalog := .standard
  profile : Profile := .structural
deriving DecidableEq, Repr

namespace Validator

def report (v : Validator) (nodes : List Node) (edges : List Edge) : Except Fault Report :=
  match Validation.findings v.profile nodes edges with
  | .error fault => .error fault
  | .ok findings => .ok ⟨findings.map v.catalog.issueOf⟩

def reportOn (v : Validator) (w : Workflow) : Except Fault Report := v.report w.nodes w.edges

/-- The report on raw documents; what is no workflow has just that error. -/
def reportRaw (v : Validator) (nodes edges : Json) : Except Fault Report :=
  match Workflow.ofRaw nodes edges with
  | .ok w => v.reportOn w
  | .error _ => .ok ⟨[v.catalog.issueOf (.onGraph .notArrays)]⟩

end Validator

end WorkflowRepair
