import WorkflowRepair.Number

/-!
Documents: trees of objects, arrays and scalars. The members of an object keep the order of the
text they were read from, and integers stay apart from doubles, so that a tree is written back as
it came.
-/

namespace WorkflowRepair

/-- A document. -/
inductive Json where
  | null
  | bool (value : Bool)
  | num (value : Number)
  | str (value : String)
  | arr (items : List Json)
  | obj (members : List (String × Json))
deriving Repr, Inhabited

/-- The members of an object, in the order of the text. -/
abbrev Members := List (String × Json)

namespace Json

mutual

/-- Decides whether two documents are the same tree. -/
def decEq : (a b : Json) → Decidable (a = b)
  | .null, .null => isTrue rfl
  | .bool a, .bool b =>
    if h : a = b then isTrue (by rw [h]) else isFalse (fun e => h (by injection e))
  | .num a, .num b =>
    if h : a = b then isTrue (by rw [h]) else isFalse (fun e => h (by injection e))
  | .str a, .str b =>
    if h : a = b then isTrue (by rw [h]) else isFalse (fun e => h (by injection e))
  | .arr a, .arr b =>
    match decEqItems a b with
    | isTrue h => isTrue (by rw [h])
    | isFalse h => isFalse (fun e => h (by injection e))
  | .obj a, .obj b =>
    match decEqMembers a b with
    | isTrue h => isTrue (by rw [h])
    | isFalse h => isFalse (fun e => h (by injection e))
  | .null, .bool _ | .null, .num _ | .null, .str _ | .null, .arr _ | .null, .obj _
  | .bool _, .null | .bool _, .num _ | .bool _, .str _ | .bool _, .arr _ | .bool _, .obj _
  | .num _, .null | .num _, .bool _ | .num _, .str _ | .num _, .arr _ | .num _, .obj _
  | .str _, .null | .str _, .bool _ | .str _, .num _ | .str _, .arr _ | .str _, .obj _
  | .arr _, .null | .arr _, .bool _ | .arr _, .num _ | .arr _, .str _ | .arr _, .obj _
  | .obj _, .null | .obj _, .bool _ | .obj _, .num _ | .obj _, .str _ | .obj _, .arr _ =>
    isFalse (fun e => by injection e)

def decEqItems : (a b : List Json) → Decidable (a = b)
  | [], [] => isTrue rfl
  | [], _ :: _ => isFalse (fun e => by injection e)
  | _ :: _, [] => isFalse (fun e => by injection e)
  | a :: as, b :: bs =>
    match decEq a b, decEqItems as bs with
    | isTrue h, isTrue t => isTrue (by rw [h, t])
    | isFalse h, _ => isFalse (fun e => h (by injection e))
    | _, isFalse t => isFalse (fun e => t (by injection e))

def decEqMembers : (a b : List (String × Json)) → Decidable (a = b)
  | [], [] => isTrue rfl
  | [], _ :: _ => isFalse (fun e => by injection e)
  | _ :: _, [] => isFalse (fun e => by injection e)
  | (k, a) :: as, (l, b) :: bs =>
    if hk : k = l then
      match decEq a b, decEqMembers as bs with
      | isTrue h, isTrue t => isTrue (by rw [hk, h, t])
      | isFalse h, _ => isFalse (fun e => h (by injection e with e _; injection e))
      | _, isFalse t => isFalse (fun e => t (by injection e))
    else isFalse (fun e => hk (by injection e with e _; injection e))

end

instance : DecidableEq Json := decEq

def str? : Json → Option String
  | .str s => some s
  | _ => none

/-- The value of a text, empty for anything else. -/
def strD (j : Json) : String := j.str?.getD ""

/-- The items of an array. -/
def arr? : Json → Option (List Json)
  | .arr items => some items
  | _ => none

def obj? : Json → Option Members
  | .obj members => some members
  | _ => none

def num? : Json → Option Number
  | .num n => some n
  | _ => none

/-- Whether the document counts as set: not null, false, zero or empty. -/
def isSet : Json → Bool
  | .null => false
  | .bool b => b
  | .num n => n.isNonzero
  | .str s => s ≠ ""
  | .arr items => !items.isEmpty
  | .obj members => !members.isEmpty

/-- A whole number. -/
def ofInt (n : Int) : Json := .num (.int n)

def ofTexts (texts : List String) : Json := .arr (texts.map .str)

/-- The document, or null where there is none. -/
def ofOption {α : Type} (encode : α → Json) : Option α → Json
  | some a => encode a
  | none => .null

end Json

namespace Members

/-- The value under a key. -/
def get? (members : Members) (key : String) : Option Json :=
  (members.find? fun m => m.1 = key).map Prod.snd

/-- The value under a key, null where the key is missing. -/
def getD (members : Members) (key : String) : Json := (get? members key).getD .null

def has (members : Members) (key : String) : Bool := members.any fun m => m.1 = key

/-- Replaces the value under a key at its place, or adds the member at the end. -/
def set (members : Members) (key : String) (value : Json) : Members :=
  if has members key then members.map fun m => if m.1 = key then (key, value) else m
  else members ++ [(key, value)]

/-- The members whose key is not among the given ones. -/
def without (members : Members) (keys : List String) : Members :=
  members.filter fun m => !keys.contains m.1

/-- All members of the second list set on the first, in order. -/
def update (members added : Members) : Members :=
  added.foldl (fun acc m => set acc m.1 m.2) members

end Members

/-- The value under a key of an object, null for a missing key or another document. -/
def Json.field (j : Json) (key : String) : Json :=
  match j with
  | .obj members => Members.getD members key
  | _ => .null

end WorkflowRepair
