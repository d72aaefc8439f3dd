import WorkflowRepair.Extraction
import WorkflowRepair.Repair

/-!
Acceptance of one text of a model: the workflow is taken out of it, validated, repaired and
validated again. It is accepted when nothing is left to be found.
-/

namespace WorkflowRepair

/-- What is done with a text of a model. -/
structure Acceptance where
  fixer : Fixer
  options : FixOptions := {}
  key : String := Extraction.standardKey
deriving DecidableEq, Repr

/-- The verdict on a text. -/
inductive Verdict where
  | accepted
  | missingJson
  | rejected
deriving DecidableEq, Repr

def Verdict.name : Verdict → String
  | .accepted => "accepted"
  | .missingJson => "missing_json"
  | .rejected => "rejected"

/-- The title of a workflow that has none. -/
def untitled : String := "未命名工作流"

/-- What the acceptance of a text comes to. -/
structure AcceptanceOutcome where
  verdict : Verdict
  title : String := untitled
  workflow : Option Workflow := none
  report : Report := {}
  fixes : List String := []
  findings : List String := []
  remaining : List Issue := []
  reverted : Bool := false
deriving DecidableEq, Repr

namespace AcceptanceOutcome

def isAccepted (o : AcceptanceOutcome) : Bool := o.verdict == .accepted

/-- One line on each issue that is left. -/
def summary (o : AcceptanceOutcome) : List String := o.remaining.map Issue.summary

/-- The members that write the workflow with its title. -/
def toMembers (o : AcceptanceOutcome) : Members :=
  ("title", .str o.title) :: (o.workflow.getD {}).toMembers

end AcceptanceOutcome

namespace Acceptance

def titleOf (payload : Members) : String :=
  match Members.getD payload "title" with
  | .str s => if Text.isBlankText s then untitled else Text.strip s
  | _ => untitled

def judge (a : Acceptance) (payload : Members) : Except Fault AcceptanceOutcome :=
  let nodes := Members.getD payload "nodes"
  let edges := Members.getD payload "edges"
  match Workflow.ofRaw nodes edges with
  | .error _ =>
    match a.fixer.validator.reportRaw nodes edges with
    | .error fault => .error fault
    | .ok report =>
      .ok { verdict := .rejected, title := titleOf payload, report := report,
            remaining := report.issues }
  | .ok w =>
    match a.fixer.validator.reportOn w with
    | .error fault => .error fault
    | .ok report =>
      match a.fixer.fix a.options w with
      | .error fault => .error fault
      | .ok fixed =>
        .ok { verdict := if fixed.isValid then .accepted else .rejected
              title := titleOf payload
              workflow := some fixed.workflow
              report := report
              fixes := fixed.fixes
              findings := fixed.findings
              remaining := fixed.remaining
              reverted := fixed.reverted }

def judgeText (a : Acceptance) (text : String) : Except Fault AcceptanceOutcome :=
  match Extraction.payload? a.key text with
  | none => .ok { verdict := .missingJson }
  | some payload => a.judge payload

end Acceptance

end WorkflowRepair
