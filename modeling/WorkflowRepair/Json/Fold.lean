import WorkflowRepair.Json

/-!
One pass over a document: what is made of each scalar, and of a collection from what was made of its
parts.
-/

namespace WorkflowRepair.Json

/-- What is made of each kind of document. -/
structure Fold (α : Type) where
  null : α
  bool : Bool → α
  num : Number → α
  str : String → α
  arr : List α → α
  obj : List (String × α) → α

namespace Fold

mutual

def run {α : Type} (f : Fold α) : Json → α
  | .null => f.null
  | .bool b => f.bool b
  | .num n => f.num n
  | .str s => f.str s
  | .arr items => f.arr (f.runItems items)
  | .obj members => f.obj (f.runMembers members)

def runItems {α : Type} (f : Fold α) : List Json → List α
  | [] => []
  | item :: rest => f.run item :: f.runItems rest

/-- What is made of the values of members. -/
def runMembers {α : Type} (f : Fold α) : List (String × Json) → List (String × α)
  | [] => []
  | (key, value) :: rest => (key, f.run value) :: f.runMembers rest

end

theorem runItems_eq_map {α : Type} (f : Fold α) (items : List Json) :
    f.runItems items = items.map f.run := by
  induction items with
  | nil => rfl
  | cons item rest ih => rw [runItems, ih, List.map_cons]

theorem runMembers_eq_map {α : Type} (f : Fold α) (members : List (String × Json)) :
    f.runMembers members = members.map fun m => (m.1, f.run m.2) := by
  induction members with
  | nil => rfl
  | cons member rest ih => rw [runMembers, ih, List.map_cons]

end Fold

end WorkflowRepair.Json
