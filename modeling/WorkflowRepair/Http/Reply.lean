import WorkflowRepair.Generation
import WorkflowRepair.Http.Form

/-!
The replies of a service: documents with a status, streams of events, a redirection, or nothing but
what stopped the service on its way.
-/

namespace WorkflowRepair.Http

/-- What stops a service on its way to a reply: a fault of the work itself, a complaint about a
number without a value, a text that cannot be sent, or a document that cannot be written. -/
inductive Breakdown where
  | fault (fault : Fault)
  | numberWithoutValue
  | unsendableText
  | unwritableDocument
deriving DecidableEq, Repr

/-- A reply. -/
inductive Reply where
  | document (status : Nat) (body : Json)
  | stream (text : String)
  | redirect
  | broken (cause : Breakdown)

/-- Some words on why a request is not met. -/
def detail (status : Nat) (value : Json) : Reply := .document status (.obj [("detail", value)])

/-- The reply to complaints, which go out with what was found although it is not shown. -/
def complaintsReply (list : List Complaint) : Reply :=
  if list.any (·.found.holdsNonFinite) then .broken .numberWithoutValue
  else if list.any (·.found.holdsHalf) then .broken .unsendableText
  else detail 422 (.arr (list.map Complaint.toJson))

/-- The reply to a refused body. -/
def Refusal.reply : Refusal → Reply
  | .unreadable => detail 400 (.str "There was an error parsing the body")
  | .complaints list => complaintsReply list

/-- The greatest depth of the values in a node or an edge. -/
def depthLimit : Nat := 255

/-- Whether a node or an edge has a value that is nested too deep. -/
def isTooDeep (item : Json) : Bool :=
  (item.obj?.getD []).any fun m => m.2.depth > depthLimit

/-- The reply with a document that was worked out; numbers without a value become null. -/
def written (body : Json) : Reply :=
  let parts := [body.field "nodes", body.field "edges"].flatMap fun part => part.arr?.getD []
  if body.holdsHalf || parts.any isTooDeep then .broken .unwritableDocument
  else .document 200 body.finite

def noWorkflow (error : WorkflowError) : Reply :=
  detail 422 (.obj [("code", .str WorkflowError.code), ("message", .str error.message)])

def known (key : String) (value : Option String) : Members :=
  match value with
  | some s => [(key, .str s)]
  | none => []

/-- An issue in a reply, with what is known of its place. -/
def issueJson (issue : Issue) : Json :=
  .obj ([("code", .str issue.code), ("message", .str issue.message)]
    ++ known "nodeId" issue.location.nodeId
    ++ known "edgeId" issue.location.edgeId
    ++ known "fieldPath" issue.location.fieldPath
    ++ known "hint" issue.location.hint)

def issuesJson (issues : List Issue) : Json := .arr (issues.map issueJson)

def reportJson (profile : Profile) (report : Report) : Json :=
  .obj [("valid", .bool report.isValid), ("profile", .str profile.name),
    ("hardErrors", issuesJson report.issues)]

/-- What a repair would do, as a document. -/
def previewJson (w : Workflow) (structureFixes : List String) (references : HealOutcome) : Json :=
  .obj (w.toMembers ++
    [("structureFixes", .ofTexts structureFixes), ("variableFixes", .ofTexts references.fixes),
      ("variableErrors", .ofTexts references.errors),
      ("availableLabels", .ofTexts references.labels)])

def fixJson (o : FixOutcome) : Json :=
  .obj ([("valid", .bool o.isValid), ("reverted", .bool o.reverted)] ++ o.workflow.toMembers ++
    [("fixes", .ofTexts o.fixes), ("findings", .ofTexts o.findings),
      ("hardErrorsBefore", issuesJson o.before), ("remainingErrors", issuesJson o.remaining)])

/-- The blocks of a run of which a fault is told in some wording: those of its events, then one that
tells the fault, and the last block unless the run has told it itself. -/
def streamBlocks (wording : Fault → String) (run : Run Unit) : List String :=
  let failure := match run.result with
    | .ok _ => []
    | .error fault => [(Event.error (wording fault) []).block]
  let ending := if run.events.any Event.isTerminal then [] else [Event.doneBlock]
  run.events.map Event.block ++ failure ++ ending

/-- The wording of a fault that is none of the domain. -/
def serverError (fault : Fault) : String := "Server error: " ++ fault.message

def streamText (run : Run Unit) : String := String.join (streamBlocks serverError run)

def isUnsendable (step : RunStep) : Bool := step.event?.any fun event => Text.holdsHalf event.block

/-- The reply with the events of a run and the number of its calls; a run that tells what cannot be
sent goes no further than that. -/
def streamReply (run : Run Unit) : Reply × Nat :=
  let text := streamText run
  let sent := run.steps.takeWhile fun step => !isUnsendable step
  (if Text.holdsHalf text then .broken .unsendableText else .stream text,
    (sent.filterMap RunStep.call?).length)

end WorkflowRepair.Http
