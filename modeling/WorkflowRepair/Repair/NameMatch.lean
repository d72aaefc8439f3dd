import WorkflowRepair.Repair.Endpoint
import WorkflowRepair.Text.EditDistance

/-!
Which node the name of a reference means when it is no label as it stands. The ways are tried in
order: an id, a word for a kind with one node, a label in normal form, and the nearest label by edit
distance, which counts only when it is near enough and no other is as near.
-/

namespace WorkflowRepair

/-- How near a label has to be to a name. -/
structure FuzzyPolicy where
  maxDistance : Number := .int 2
  maxRatio : Number := .double (Double.ofDecimal false 3 (-1))
  shortLength : Number := .int 3
  shortMaxDistance : Number := .int 1
deriving DecidableEq, Repr

/-- Whether a distance from the name is accepted: short names have a bound of their own, for others
either bound suffices. -/
def FuzzyPolicy.accepts (policy : FuzzyPolicy) (name : String) (distance : Nat) : Bool :=
  let length := name.length
  if (Number.int length).le policy.shortLength then (Number.int distance).le policy.shortMaxDistance
  else (Number.int distance).le policy.maxDistance
    || (Number.int distance).le (policy.maxRatio.mulNat length)

/-- What a name that is no label comes to. -/
inductive NameMatch where
  | nodeId (label : String)
  | typeAlias (label : String)
  | normalLabel (label : String)
  | fuzzy (label : String)
  | suggestion (label : String) (candidates : List String)
  | ambiguous (candidates : List String)
  | unresolved
deriving DecidableEq, Repr

namespace NameMatch

def way : NameMatch → String
  | .nodeId _ => "node_id"
  | .typeAlias _ => "type_alias"
  | .normalLabel _ => "label_normalized"
  | .fuzzy _ => "fuzzy"
  | .suggestion .. => "fuzzy_suggestion"
  | .ambiguous _ => "ambiguous_type"
  | .unresolved => "unresolved"

def label? : NameMatch → Option String
  | .nodeId label | .typeAlias label | .normalLabel label | .fuzzy label => some label
  | .suggestion label _ => some label
  | .ambiguous _ | .unresolved => none

/-- The label that a match is sure enough of to put it in. -/
def certain? : NameMatch → Option String
  | .nodeId label | .typeAlias label | .normalLabel label | .fuzzy label => some label
  | .suggestion .. | .ambiguous _ | .unresolved => none

/-- The labels between which a match could not decide. -/
def candidates : NameMatch → List String
  | .suggestion _ candidates | .ambiguous candidates => candidates
  | _ => []

end NameMatch

namespace Repair

/-- The labels that are not blank, each once, in order. -/
def labels (nodes : List Node) : List String :=
  ((nodes.filter Node.isLabelled).map Node.label).eraseDups

def labelsOfKind (nodes : List Node) (kind : NodeKind) : List String :=
  (nodes.filter fun n => n.isLabelled && n.isKind kind).map Node.label

/-- The first node with the id, or else the only one whose id differs in case alone. -/
def nodeNamed? (nodes : List Node) (name : String) : Option Node :=
  let distinct := distinctNodes nodes
  match distinct.find? fun n => n.id == name with
  | some node => some node
  | none => sameButCase? distinct name

def labelById? (nodes : List Node) (name : String) : Option String :=
  ((nodeNamed? nodes name).filter Node.isLabelled).map Node.label

/-- The first label that has the normal form of the name. -/
def labelByForm? (nodes : List Node) (name : String) : Option String :=
  (labels nodes).find? fun label => Template.normalLabel label == Template.normalLabel name

/-- The distance of each label from a name in normal form. -/
def scores (nodes : List Node) (target : String) : List (Nat × String) :=
  (labels nodes).map fun label => (Text.editDistance target (Template.normalLabel label), label)

/-- The match by edit distance. -/
def nearestLabel (policy : FuzzyPolicy) (nodes : List Node) (name : String) : NameMatch :=
  let target := Template.normalLabel name
  let scored := scores nodes target
  match (scored.map Prod.fst).min? with
  | none => .unresolved
  | some best =>
    match (scored.filter fun s => s.1 == best).map Prod.snd with
    | [] => .unresolved
    | [label] => if policy.accepts target best then .fuzzy label else .suggestion label [label]
    | label :: more => .suggestion label (label :: more)

/-- The match of a name by the labels of a kind it stands for, if it stands for one. -/
def matchByKind? (nodes : List Node) (name : String) : Option NameMatch :=
  match NodeKind.ofAlias? name with
  | none => none
  | some kind =>
    match labelsOfKind nodes kind with
    | [] => none
    | [label] => some (.typeAlias label)
    | several =>
      match labelByForm? nodes name with
      | some label => some (.normalLabel label)
      | none => some (.ambiguous several)

/-- What a name comes to; nothing when it is empty or a label as it stands. -/
def matchName? (policy : FuzzyPolicy) (nodes : List Node) (name : String) : Option NameMatch :=
  if name = "" ∨ (labels nodes).contains name then none
  else match labelById? nodes name with
    | some label => some (.nodeId label)
    | none =>
      match matchByKind? nodes name with
      | some found => some found
      | none =>
        match labelByForm? nodes name with
        | some label => some (.normalLabel label)
        | none => some (nearestLabel policy nodes name)

end Repair

end WorkflowRepair
