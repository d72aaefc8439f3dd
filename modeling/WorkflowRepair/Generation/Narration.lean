import WorkflowRepair.Generation.Event
import WorkflowRepair.TagStream

/-!
What is told of an answer while it arrives. The tags of the answer become steps, and what stands
in a plan is told as thinking and kept as the plan.
-/

namespace WorkflowRepair

/-- What is known of an answer: the step under way, whether a plan is open, and the plan so far. -/
structure Narration where
  step : Option String := none
  inPlan : Bool := false
  plan : String := ""
deriving DecidableEq, Repr, Inhabited

namespace Narration

/-- The type of the step that a tag opens: the one that the tag gives, or the name of the tag. -/
def stepType (name : String) (attributes : List (String × String)) : String :=
  match attributes.lookup "type" with
  | some type => if type = "" then name else type
  | none => name

def tell (n : Narration) : TagEvent → List Event × Narration
  | .opened name attributes =>
    if name = "plan" then ([], { n with inPlan := true })
    else
      let type := stepType name attributes
      ([.step type .streaming ""], { n with step := some type })
  | .content text =>
    if n.inPlan then ([.thinking text], { n with plan := n.plan ++ text })
    else match n.step with
      | some type => ([.step type .streaming text], n)
      | none => ([], n)
  | .closed _ =>
    if n.inPlan then ([], { n with inPlan := false })
    else match n.step with
      | some type => ([.step type .completed ""], { n with step := none })
      | none => ([], n)
  | .endOfStream =>
    match n.step with
    | some type => ([.step type .completed ""], { n with step := none })
    | none => ([], { n with inPlan := false })

/-- What is told at several events of the tags, one after another. -/
def tellAll (n : Narration) : List TagEvent → List Event × Narration
  | [] => ([], n)
  | event :: rest =>
    let (told, next) := n.tell event
    let (more, last) := next.tellAll rest
    (told ++ more, last)

end Narration

end WorkflowRepair
