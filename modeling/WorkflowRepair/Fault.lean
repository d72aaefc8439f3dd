/-!
What can stop a computation that otherwise always answers: a number outside the range in which it
can be examined, or an error that a completion did not announce as one of its own.
-/

namespace WorkflowRepair

/-- The cause for which a computation stopped. -/
inductive Fault where
  | integerTooLarge
  | completionBroke (text : String)
deriving DecidableEq, Repr

def Fault.message : Fault → String
  | .integerTooLarge => "int too large to convert to float"
  | .completionBroke text => text

end WorkflowRepair
