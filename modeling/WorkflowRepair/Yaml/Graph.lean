import WorkflowRepair.Yaml.Kind

/-!
Nodes by number. An alias is the number of the node with its anchor, so a node may stand in several
places, and even inside itself.
-/

namespace WorkflowRepair.Yaml

/-- What a node holds: a text, or the numbers of other nodes. -/
inductive Content where
  | text (value : String)
  | items (numbers : List Nat)
  | members (pairs : List (Nat × Nat))
deriving DecidableEq, Repr, Inhabited

/-- A node with the place where it begins. -/
structure Node where
  start : Position
  kind : Kind
  content : Content
deriving DecidableEq, Repr, Inhabited

/-- A scalar that is left out. -/
def Node.missing (place : Position) : Node := ⟨place, .null, .text ""⟩

abbrev Graph := Array Node

namespace Graph

def node (g : Graph) (n : Nat) : Node := g.getD n default

/-- The members of a mapping; other nodes have none. -/
def membersOf (g : Graph) (n : Nat) : List (Nat × Nat) :=
  match (g.node n).content with
  | .members pairs => pairs
  | _ => []

def isMapping (g : Graph) (n : Nat) : Bool :=
  match (g.node n).content with
  | .members _ => true
  | _ => false

/-- Gives a node other members. -/
def setMembers (g : Graph) (n : Nat) (pairs : List (Nat × Nat)) : Graph :=
  g.modify n fun node => { node with content := .members pairs }

/-- Gives a node another kind. -/
def setKind (g : Graph) (n : Nat) (kind : Kind) : Graph :=
  g.modify n fun node => { node with kind := kind }

end Graph

end WorkflowRepair.Yaml
