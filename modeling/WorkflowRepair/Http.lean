import WorkflowRepair.Http.Reply
import WorkflowRepair.Http.Settings

/-!
The service over HTTP: validation, preview and repair of workflows, generation as a stream of
events, and the state of the service. Nothing but the number of completions used up is carried
from one request to the next.
-/

namespace WorkflowRepair.Http

/-- What a service is asked to do. -/
inductive Endpoint where
  | health
  | version
  | validate
  | preview
  | fix
  | generate
deriving DecidableEq, Repr

namespace Endpoint

def all : List Endpoint := [.health, .version, .validate, .preview, .fix, .generate]

def path : Endpoint → String
  | .health => "/health"
  | .version => "/health/version"
  | .validate => "/api/workflows/validate"
  | .preview => "/api/workflows/heal-preview"
  | .fix => "/api/workflows/fix"
  | .generate => "/api/workflows/generate"

def method : Endpoint → String
  | .health | .version => "GET"
  | .validate | .preview | .fix | .generate => "POST"

/-- The endpoint at a path, which may end with the end of a line. -/
def ofPath? (path : String) : Option Endpoint :=
  all.find? fun endpoint => path = endpoint.path || path = endpoint.path ++ "\n"

/-- A path without the slashes behind it. -/
def withoutSlashes (path : String) : String :=
  String.ofList (path.toList.reverse.dropWhile (· = '/')).reverse

/-- Whether a path leads to an endpoint once the slashes behind it are left out. -/
def isNear (path : String) : Bool := path.endsWith "/" && (ofPath? (withoutSlashes path)).isSome

end Endpoint

/-- A request. -/
structure Request where
  method : String := "POST"
  path : String
  body : Body := .absent

/-- A service: its settings and the completion behind it. -/
structure Service where
  settings : Settings := {}
  completion : Nat → Completion.Answer

namespace Service

def health (s : Service) : Json :=
  .obj [("status", .str "healthy"), ("service", .str s.settings.name),
    ("version", .str s.settings.version)]

def version (s : Service) : Json :=
  .obj [("app_name", .str s.settings.name), ("version", .str s.settings.version),
    ("environment", .str s.settings.environment)]

/-- Validates a workflow, or what was sent for one. -/
def validate (s : Service) (form : WorkflowForm) : Reply :=
  let profile := form.profile.getD s.settings.profile
  let validator : Validator := { profile := profile }
  match validator.reportRaw form.nodes form.edges with
  | .error fault => .broken (.fault fault)
  | .ok report => written (reportJson profile report)

/-- Says what a repair of a workflow would do. -/
def preview (s : Service) (form : WorkflowForm) : Reply :=
  match Workflow.ofRaw form.nodes form.edges with
  | .error e => noWorkflow e
  | .ok w =>
    written (previewJson w (Repair.preview w (Repair.defects w))
      (Repair.suggestReferences s.settings.matching w))

/-- The repairs that a form asks for. -/
def optionsOf (s : Service) (form : FixForm) : FixOptions :=
  let standard := s.settings.fixOptions
  { standard with
    onlyInvalid := form.onlyInvalid
    addTerminals := form.addTerminals.getD standard.addTerminals
    renameFields := form.renameFields.getD standard.renameFields }

/-- Repairs a workflow. -/
def fix (s : Service) (form : FixForm) : Reply :=
  match Workflow.ofRaw form.workflow.nodes form.workflow.edges with
  | .error e => noWorkflow e
  | .ok w =>
    let fixer := s.settings.fixer (form.workflow.profile.getD s.settings.profile)
    match fixer.fix (s.optionsOf form) w with
    | .error fault => .broken (.fault fault)
    | .ok outcome => written (fixJson outcome)

/-- The reply of an endpoint to what a body was read as. -/
def replyTo {α : Type} (form : Except Refusal α) (reply : α → Reply) : Reply :=
  match form with
  | .error refusal => refusal.reply
  | .ok value => reply value

/-- The reply to a request and the number of completions it used up, by the number of those used up
before. -/
def reply (s : Service) (earlier : Nat) (request : Request) : Reply × Nat :=
  match Endpoint.ofPath? request.path with
  | none =>
    (if Endpoint.isNear request.path then .redirect else detail 404 (.str "Not Found"), 0)
  | some endpoint =>
    if endpoint.method ≠ request.method then (detail 405 (.str "Method Not Allowed"), 0)
    else match endpoint with
      | .health => (written s.health, 0)
      | .version => (written s.version, 0)
      | .validate => (replyTo (WorkflowForm.read request.body) s.validate, 0)
      | .preview => (replyTo (WorkflowForm.read request.body) s.preview, 0)
      | .fix => (replyTo (FixForm.read request.body) s.fix, 0)
      | .generate =>
        match readPrompt request.body with
        | .error refusal => (refusal.reply, 0)
        | .ok prompt => streamReply ((s.settings.generator s.completion).generate prompt earlier)

/-- The replies to several requests, one after another. -/
def replies (s : Service) (earlier : Nat) : List Request → List Reply
  | [] => []
  | request :: rest =>
    let (reply, used) := s.reply earlier request
    reply :: s.replies (earlier + used) rest

end Service

end WorkflowRepair.Http
