import WorkflowRepair.Repair.Description
import WorkflowRepair.Repair.Detection
import WorkflowRepair.Validation

/-!
Structural repair. The safe defects are mended all at once, edge by edge; the result stands only
when a validator finds no more in it than in the workflow as it was.
-/

namespace WorkflowRepair.Repair

/-- The edge with a flaw mended; one that has to go stays as it is. -/
def amend (edge : Edge) (flaw : EdgeFlaw) : Edge :=
  match flaw.kind with
  | .alias .. => { edge with source := flaw.source, target := flaw.target }
  | .strayHandle => { edge with sourceHandle := .null }
  | .missingId fresh => if fresh = "" then edge else { edge with givenId := some fresh }
  | .dangling | .duplicate | .cycle => edge

/-- The edge at a place after the mending of its flaws, when it stays. -/
def mendEdge? (flaws : List EdgeFlaw) (entry : Edge × Nat) : Option Edge :=
  let own := flaws.filter fun f => f.index == entry.2
  if own.any (·.kind.removes) then none else some (own.foldl amend entry.1)

def mend (w : Workflow) (flaws : List EdgeFlaw) : Workflow :=
  { w with edges := w.edges.zipIdx.filterMap (mendEdge? flaws) }

def mended (w : Workflow) : Workflow := mend w ((defects w).filterMap Defect.flaw?)

/-- What a structural repair comes to. -/
structure StructureOutcome where
  workflow : Workflow
  fixes : List String := []
  findings : List String := []
  applied : List Defect := []
  remaining : List Issue := []
  reverted : Bool := false
deriving DecidableEq, Repr

def StructureOutcome.changed (o : StructureOutcome) : Bool := !o.applied.isEmpty && !o.reverted

/-- Repairs the structure of a workflow; with the gate closed to valid workflows these are left
alone. -/
def fixStructure (v : Validator) (onlyInvalid : Bool) (w : Workflow) :
    Except Fault StructureOutcome :=
  match v.reportOn w with
  | .error fault => .error fault
  | .ok before =>
    if onlyInvalid && before.isValid then .ok { workflow := w }
    else
      let found := defects w
      let safe := found.filter Defect.isSafe
      let findings := preview w (found.filter fun d => !d.isSafe)
      let fixed := mend w (safe.filterMap Defect.flaw?)
      match v.reportOn fixed with
      | .error fault => .error fault
      | .ok after =>
        if after.count > before.count then
          .ok { workflow := w, findings := findings, remaining := before.issues, reverted := true }
        else
          .ok { workflow := fixed, fixes := preview w safe, findings := findings, applied := safe,
                remaining := after.issues }

end WorkflowRepair.Repair
