import WorkflowRepair.Json

/-!
Issues and reports. An issue has a stable code, a message and whatever of its place is known; a
report is nothing but its issues, and a workflow is valid when there are none.
-/

namespace WorkflowRepair

/-- Where an issue lies, and what may help to mend it. -/
structure Location where
  nodeId : Option String := none
  edgeId : Option String := none
  fieldPath : Option String := none
  hint : Option String := none
deriving DecidableEq, Repr, Inhabited

/-- A hard error of a workflow. -/
structure Issue where
  code : String
  message : String
  location : Location := {}
deriving DecidableEq, Repr, Inhabited

/-- All issues of a workflow in the order in which they were found. -/
structure Report where
  issues : List Issue := []
deriving DecidableEq, Repr, Inhabited

namespace Issue

def memberUnlessEmpty (key : String) (value : Option String) : Members :=
  match value with
  | some s => if s = "" then [] else [(key, .str s)]
  | none => []

/-- The issue as a document; of the location only what is not empty. -/
def toJson (issue : Issue) : Json :=
  .obj ([("code", .str issue.code), ("message", .str issue.message)]
    ++ memberUnlessEmpty "nodeId" issue.location.nodeId
    ++ memberUnlessEmpty "edgeId" issue.location.edgeId
    ++ memberUnlessEmpty "fieldPath" issue.location.fieldPath
    ++ memberUnlessEmpty "hint" issue.location.hint)

def summary (issue : Issue) : String := issue.code ++ ": " ++ issue.message

end Issue

namespace Report

def isValid (report : Report) : Bool := report.issues.isEmpty

def count (report : Report) : Nat := report.issues.length

/-- The codes of the issues in order, repetitions included. -/
def codes (report : Report) : List String := report.issues.map Issue.code

/-- Each code with the number of its issues, in order of first appearance. -/
def codeCounts (report : Report) : List (String × Nat) :=
  report.codes.eraseDups.map fun code => (code, report.codes.count code)

def has (report : Report) (code : String) : Bool := report.issues.any (·.code = code)

def toMembers (report : Report) : Members :=
  [("hardErrors", .arr (report.issues.map Issue.toJson))]

end Report

end WorkflowRepair
