/-!
Completions of a text by a model. A completion is called again and again, and each call is
answered by a text in pieces which ends in one of four ways.
-/

namespace WorkflowRepair.Completion

/-- How an answer ends: in full, for want of a further piece in time, by a failure that is
announced as one, or by any other error. -/
inductive Ending where
  | finished
  | timedOut
  | failed (cause : String)
  | broke (cause : String)
deriving DecidableEq, Repr

/-- The answer to a call. -/
structure Answer where
  pieces : List String := []
  ending : Ending := .finished
deriving DecidableEq, Repr, Inhabited

namespace Answer

def text (answer : Answer) : String := String.join answer.pieces

end Answer

end WorkflowRepair.Completion
