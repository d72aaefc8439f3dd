import WorkflowRepair.Json
import WorkflowRepair.Template
import WorkflowRepair.Text.Search

/-!
The text values inside the data of a node: where each stands, and the data with every one of them
replaced. The label at the top of the data is a name and not a value, so it is passed over.
-/

namespace WorkflowRepair

/-- The last step on the way to a value. -/
inductive PathStep where
  | key (name : String)
  | index (place : Nat)
deriving DecidableEq, Repr

/-- A text value and where it stands. -/
structure TextField where
  path : String
  value : String
  step : PathStep
deriving DecidableEq, Repr

namespace TextField

mutual

def ofJson (path : String) (step : PathStep) : Json → List TextField
  | .str s => [⟨path, s, step⟩]
  | .obj members => ofMembers path members
  | .arr items => ofItems path 0 items
  | .null | .bool _ | .num _ => []

def ofMembers (path : String) : List (String × Json) → List TextField
  | [] => []
  | (key, value) :: rest => ofJson (path ++ "." ++ key) (.key key) value ++ ofMembers path rest

/-- The text values below the items of an array, from the given place on. -/
def ofItems (path : String) (place : Nat) : List Json → List TextField
  | [] => []
  | item :: rest =>
    ofJson (path ++ "[" ++ toString place ++ "]") (.index place) item
      ++ ofItems path (place + 1) rest

end

def dataPath : String := "data"

/-- The text values below members that stand at the path; in the data of a node all but the label.
-/
def all (path : String) (members : Members) : List TextField :=
  ofMembers path (if path = dataPath then members.filter (·.1 ≠ "label") else members)

/-- Whether the value holds both the opening and the closing of a slot. -/
def isTemplate (field : TextField) : Bool :=
  Text.occurs Template.opening field.value.toList && Text.occurs Template.closing field.value.toList

/-- The text values of a node's data that may hold references. -/
def templates (data : Members) : List TextField := (all dataPath data).filter isTemplate

end TextField

namespace Json

mutual

def mapTexts (f : String → String) : Json → Json
  | .str s => .str (f s)
  | .obj members => .obj (mapTextsMembers f members)
  | .arr items => .arr (mapTextsItems f items)
  | .null => .null
  | .bool b => .bool b
  | .num n => .num n

def mapTextsMembers (f : String → String) : List (String × Json) → List (String × Json)
  | [] => []
  | (key, value) :: rest => (key, mapTexts f value) :: mapTextsMembers f rest

def mapTextsItems (f : String → String) : List Json → List Json
  | [] => []
  | item :: rest => mapTexts f item :: mapTextsItems f rest

end

end Json

/-- The data with every text value besides the label replaced. -/
def Members.mapTexts (f : String → String) (data : Members) : Members :=
  data.map fun m => if m.1 = "label" then m else (m.1, m.2.mapTexts f)

end WorkflowRepair
