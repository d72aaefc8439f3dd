import WorkflowRepair.Workflow

/-!
Structural defects. A flaw of an edge says what its repair is and can be mended without guessing; a
node off every way through the graph can only be reported, with edges that would connect it.
-/

namespace WorkflowRepair

/-- One end of an edge. -/
inductive Side where
  | source
  | target
deriving DecidableEq, Repr

def Side.name : Side → String
  | .source => "source"
  | .target => "target"

/-- What is the matter with an edge. -/
inductive FlawKind where
  | alias (side : Side) (written : String)
  | dangling
  | duplicate
  | cycle
  | strayHandle
  | missingId (fresh : String)
deriving DecidableEq, Repr

namespace FlawKind

/-- Whether the edge has to go. -/
def removes : FlawKind → Bool
  | .dangling | .duplicate | .cycle => true
  | .alias .. | .strayHandle | .missingId _ => false

end FlawKind

/-- A flaw of the edge at a place: its ends as they should be, and the id it has. -/
structure EdgeFlaw where
  kind : FlawKind
  index : Nat
  source : String
  target : String
  edgeId : Option String
deriving DecidableEq, Repr

def EdgeFlaw.finalId (flaw : EdgeFlaw) : Option String :=
  match flaw.kind with
  | .missingId fresh => some fresh
  | _ => flaw.edgeId

/-- A structural defect. -/
inductive Defect where
  | edge (flaw : EdgeFlaw)
  | orphan (nodeId : String) (links : List (String × String))
deriving DecidableEq, Repr

namespace Defect

/-- The flaw of an edge, when the defect is one. -/
def flaw? : Defect → Option EdgeFlaw
  | .edge flaw => some flaw
  | .orphan .. => none

/-- Whether the defect can be mended without guessing. -/
def isSafe (d : Defect) : Bool := d.flaw?.isSome

end Defect

end WorkflowRepair
