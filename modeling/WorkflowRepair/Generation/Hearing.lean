import WorkflowRepair.Completion
import WorkflowRepair.Generation.Narration

/-!
Listening to the answer of a completion: its pieces are told as they come, then how it was cut short
if it was, and last what was still open.
-/

namespace WorkflowRepair

/-- What is left of an answer when it is over. -/
structure Heard where
  text : String
  plan : String
  failed : Bool
deriving DecidableEq, Repr

namespace Heard

/-- What is told of an answer that was cut short in a phase. -/
def interruption (phase : String) : Completion.Ending → List Event
  | .timedOut => [.step "timeout" .error "模型响应超时"]
  | .failed cause => [.step phase .error ("模型调用失败: " ++ cause)]
  | .finished | .broke _ => []

def isFailure : Completion.Ending → Bool
  | .failed _ => true
  | .finished | .timedOut | .broke _ => false

/-- Listens to an answer in a phase; an answer that breaks leaves nothing but what was told. -/
def listen (phase : String) (answer : Completion.Answer) : List Event × Except Fault Heard :=
  let (tags, state) := TagStream.feedAll TagStream.standardVocabulary {} answer.pieces
  let (told, narration) := ({} : Narration).tellAll tags
  match answer.ending with
  | .broke cause => (told, .error (.completionBroke cause))
  | ending =>
    let (last, rest) := narration.tellAll (TagStream.flush state)
    (told ++ interruption phase ending ++ last,
      .ok { text := answer.text, plan := Text.strip rest.plan, failed := isFailure ending })

end Heard

end WorkflowRepair
