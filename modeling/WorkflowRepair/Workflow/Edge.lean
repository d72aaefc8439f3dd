import WorkflowRepair.Json

/-!
Edges of a workflow. An endpoint that is missing or no text is read as empty and left to the
validation; an empty id counts as none; the handles keep whatever value they came with, where null
stands for none.
-/

namespace WorkflowRepair

/-- A directed connection between two nodes. -/
structure Edge where
  source : String := ""
  target : String := ""
  givenId : Option String := none
  sourceHandle : Json := .null
  targetHandle : Json := .null
  extra : Members := []
deriving DecidableEq, Repr, Inhabited

/-- One of the two exits of a branch. -/
inductive Exit where
  | yes
  | no
deriving DecidableEq, Repr

namespace Exit

def handle : Exit → String
  | .yes => "true"
  | .no => "false"

def ofHandle? : Json → Option Exit
  | .str "true" => some .yes
  | .str "false" => some .no
  | _ => none

def other : Exit → Exit
  | .yes => .no
  | .no => .yes

end Exit

namespace Edge

/-- The members of a document that have a meaning for an edge. -/
def knownKeys : List String := ["id", "source", "target", "sourceHandle", "targetHandle"]

def ofJson (raw : Json) : Edge :=
  match raw with
  | .obj members =>
    { source := (Members.getD members "source").strD
      target := (Members.getD members "target").strD
      givenId := (Members.getD members "id").str?.filter (· ≠ "")
      sourceHandle := Members.getD members "sourceHandle"
      targetHandle := Members.getD members "targetHandle"
      extra := Members.without members knownKeys }
  | _ => {}

def memberUnlessNull (key : String) (value : Json) : Members :=
  if value = .null then [] else [(key, value)]

def toJson (edge : Edge) : Json :=
  .obj ((match edge.givenId with
      | some id => [("id", .str id)]
      | none => [])
    ++ [("source", .str edge.source), ("target", .str edge.target)]
    ++ memberUnlessNull "sourceHandle" edge.sourceHandle
    ++ memberUnlessNull "targetHandle" edge.targetHandle
    ++ edge.extra)

/-- The id of the edge, where one was given that is not empty. -/
def id (edge : Edge) : Option String := edge.givenId.filter (· ≠ "")

def pair (edge : Edge) : String × String := (edge.source, edge.target)

def hasHandle (edge : Edge) : Bool := edge.sourceHandle ≠ .null && edge.sourceHandle ≠ .str ""

def exit? (edge : Edge) : Option Exit := Exit.ofHandle? edge.sourceHandle

end Edge

end WorkflowRepair
