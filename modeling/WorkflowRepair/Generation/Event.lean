import WorkflowRepair.Acceptance
import WorkflowRepair.ArgumentError
import WorkflowRepair.Json.Printer

/-!
Events of a generation and their form on the wire. An event is its kind and an open payload; a block
on the wire is a line with the kind, a line with the document and a blank line, except for the last
event, which is a block of its own.
-/

namespace WorkflowRepair

/-- The kind of an event. -/
inductive EventKind where
  | thinkingStart
  | thinking
  | thinkingEnd
  | step
  | plan
  | validation
  | validationFix
  | fallback
  | result
  | error
  | done
deriving DecidableEq, Repr

namespace EventKind

def all : List EventKind := [.thinkingStart, .thinking, .thinkingEnd, .step, .plan, .validation,
  .validationFix, .fallback, .result, .error, .done]

def name : EventKind → String
  | .thinkingStart => "thinking_start"
  | .thinking => "thinking"
  | .thinkingEnd => "thinking_end"
  | .step => "step"
  | .plan => "plan"
  | .validation => "validation"
  | .validationFix => "validation_fix"
  | .fallback => "fallback"
  | .result => "result"
  | .error => "error"
  | .done => "done"

def ofName (name : String) : Except ArgumentError EventKind :=
  match all.find? fun kind => kind.name = name with
  | some kind => .ok kind
  | none => .error (.unknownEventKind name)

end EventKind

/-- The status of a step. -/
inductive StepStatus where
  | streaming
  | completed
  | error
deriving DecidableEq, Repr

namespace StepStatus

def name : StepStatus → String
  | .streaming => "streaming"
  | .completed => "completed"
  | .error => "error"

def ofName (name : String) : Except ArgumentError StepStatus :=
  match [StepStatus.streaming, .completed, .error].find? fun status => status.name = name with
  | some status => .ok status
  | none => .error (.unknownStatus name)

end StepStatus

/-- An event of a generation. -/
structure Event where
  kind : EventKind
  payload : Members := []
deriving DecidableEq, Repr

namespace Event

def step (type : String) (status : StepStatus) (content : String) : Event :=
  ⟨.step, [("step_type", .str type), ("status", .str status.name), ("content", .str content)]⟩

def thinkingStart : Event := ⟨.thinkingStart, []⟩

def thinkingEnd : Event := ⟨.thinkingEnd, []⟩

def thinking (content : String) : Event := ⟨.thinking, [("content", .str content)]⟩

def plan (content : String) : Event := ⟨.plan, [("content", .str content)]⟩

/-- A more cautious way taken at a stage. -/
def fallback (stage reason : String) : Event :=
  ⟨.fallback, [("stage", .str stage), ("reason", .str reason)]⟩

/-- An error, with further members. -/
def error (message : String) (extra : Members) : Event :=
  ⟨.error, ("message", .str message) :: extra⟩

/-- The workflow that was generated. -/
def result (outcome : AcceptanceOutcome) : Event := ⟨.result, outcome.toMembers⟩

def done : Event := ⟨.done, []⟩

/-- Whether the event is the last one. -/
def isTerminal (event : Event) : Bool := event.kind == .done

/-- The event as a document: its kind, then its payload, which may give another name for the kind.
-/
def toJson (event : Event) : Json :=
  .obj (Members.update [("type", .str event.kind.name)] event.payload)

/-- The last block on the wire. -/
def doneBlock : String := "data: [DONE]\n\n"

def block (event : Event) : String :=
  if event.isTerminal then doneBlock
  else "event: " ++ event.kind.name ++ "\ndata: " ++ event.toJson.render ++ "\n\n"

end Event

end WorkflowRepair
