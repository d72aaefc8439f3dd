import WorkflowRepair.Json.Fold
import WorkflowRepair.Text.Half

/-!
What keeps a document from being written: halves of pairs in its texts, numbers without a value, and
deep nesting.
-/

namespace WorkflowRepair.Json

def holdsHalf : Json → Bool := Fold.run {
  null := false
  bool _ := false
  num _ := false
  str := Text.holdsHalf
  arr found := found.any id
  obj found := found.any fun m => Text.holdsHalf m.1 || m.2 }

/-- Whether the document holds a number without a finite value. -/
def holdsNonFinite : Json → Bool := Fold.run {
  null := false
  bool _ := false
  num n := !n.isFinite
  str _ := false
  arr found := found.any id
  obj found := found.any Prod.snd }

/-- How deep a document is nested; a scalar counts one. -/
def depth : Json → Nat := Fold.run {
  null := 1
  bool _ := 1
  num _ := 1
  str _ := 1
  arr depths := depths.foldl Nat.max 0 + 1
  obj depths := (depths.map Prod.snd).foldl Nat.max 0 + 1 }

/-- The document with null for every number without a finite value. -/
def finite : Json → Json := Fold.run {
  null := .null
  bool := .bool
  num n := if n.isFinite then .num n else .null
  str := .str
  arr := .arr
  obj := .obj }

end WorkflowRepair.Json
