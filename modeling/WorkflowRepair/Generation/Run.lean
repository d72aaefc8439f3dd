import WorkflowRepair.Generation.Event
import WorkflowRepair.Generation.Prompt

/-!
Runs: what a computation tells and which calls it makes, until it ends or a fault stops it. Each
part of a run knows how many calls were made before it.
-/

namespace WorkflowRepair

/-- A call of a model. -/
structure Call where
  prompt : Prompt
  user : String
  temperature : Number
deriving DecidableEq, Repr

/-- A step of a run: a call that is made or an event that is told. -/
inductive RunStep where
  | call (call : Call)
  | event (event : Event)
deriving DecidableEq, Repr

def RunStep.call? : RunStep → Option Call
  | .call made => some made
  | .event _ => none

def RunStep.event? : RunStep → Option Event
  | .call _ => none
  | .event told => some told

/-- What a computation has called and told in order, and how it ended. -/
structure Run (α : Type) where
  steps : List RunStep
  result : Except Fault α

def Run.calls {α : Type} (run : Run α) : List Call := run.steps.filterMap RunStep.call?

def Run.events {α : Type} (run : Run α) : List Event := run.steps.filterMap RunStep.event?

/-- A part of a run, by the number of the calls before it. -/
def Talk (α : Type) : Type := Nat → Run α

namespace Talk

def tell (events : List Event) : Talk Unit := fun _ => ⟨events.map .event, .ok ()⟩

/-- One part after another; a fault of the first leaves out the second. -/
def andThen {α β : Type} (first : Talk α) (next : α → Talk β) : Talk β := fun earlier =>
  let run := first earlier
  match run.result with
  | .error fault => ⟨run.steps, .error fault⟩
  | .ok a =>
    let rest := next a (earlier + run.calls.length)
    ⟨run.steps ++ rest.steps, rest.result⟩

instance : Monad Talk where
  pure a := fun _ => ⟨[], .ok a⟩
  bind := andThen

end Talk

end WorkflowRepair
