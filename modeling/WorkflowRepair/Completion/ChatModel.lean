import WorkflowRepair.ArgumentError
import WorkflowRepair.Completion
import WorkflowRepair.Json

/-!
Completions by a chat service. A call becomes one request to the service; of what the service sends,
the first choice of each packet is passed on unless it is empty, and the failures of the service are
announced as such.
-/

namespace WorkflowRepair.Completion

/-- What the service sends at a time: the contents of its choices, of which some may be missing. -/
structure Packet where
  choices : List (Option String) := []
deriving DecidableEq, Repr

/-- An error on the way: one of the service, or any other. -/
inductive ServiceError where
  | service (text : String)
  | other (text : String)
deriving DecidableEq, Repr

/-- How the service meets a request: it refuses it, or it sends packets and may then fail. -/
inductive Service where
  | refuses (error : ServiceError)
  | sends (packets : List Packet) (error : Option ServiceError)
deriving DecidableEq, Repr

def ServiceError.ending : ServiceError → Ending
  | .service text => .failed ("OpenAI 调用失败: " ++ text)
  | .other text => .broke text

def Packet.text? (packet : Packet) : Option String :=
  (packet.choices.head?.bind id).filter (· ≠ "")

def Service.answer : Service → Answer
  | .refuses error => ⟨[], error.ending⟩
  | .sends packets error =>
    ⟨packets.filterMap Packet.text?, (error.map ServiceError.ending).getD .finished⟩

/-- A model of the service, which needs a key to be used. -/
structure ChatModel where
  key : String
  name : String := "gpt-4o-mini"
  tokenLimit : Int := 4000
  key_ne : key ≠ ""

namespace ChatModel

def make (key name : String) (tokenLimit : Int) : Except ArgumentError ChatModel :=
  if h : key ≠ "" then .ok ⟨key, name, tokenLimit, h⟩ else .error .noApiKey

def message (role content : String) : Json :=
  .obj [("role", .str role), ("content", .str content)]

/-- The request for a call, with further members. -/
def request (model : ChatModel) (system user : String) (temperature : Json) (extra : Members) :
    Members :=
  Members.update
    [("model", .str model.name),
      ("messages", .arr [message "system" system, message "user" user]),
      ("temperature", temperature),
      ("max_tokens", .ofInt model.tokenLimit),
      ("stream", .bool true)]
    extra

end ChatModel

end WorkflowRepair.Completion
