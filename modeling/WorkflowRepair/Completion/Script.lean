import WorkflowRepair.ArgumentError
import WorkflowRepair.Completion

/-!
Completions that follow a script: each call uses up one item of it, and when no item is left every
call is answered by the same text.
-/

namespace WorkflowRepair.Completion

/-- An item of a script: a text to be cut into pieces, or an answer as it is. -/
inductive ScriptItem where
  | text (value : String)
  | answer (value : Answer)
deriving DecidableEq, Repr

/-- A script. -/
structure Script where
  items : List ScriptItem := []
  spare : String := ""
  pieceLength : Nat := 16
  pieceLength_pos : 0 < pieceLength := by decide

/-- The characters in pieces of a length, the last one being as long as what is left. -/
def cut (length : Nat) : List Char → List String
  | [] => []
  | c :: rest => String.ofList (c :: rest.take (length - 1)) :: cut length (rest.drop (length - 1))
termination_by cs => cs.length
decreasing_by simp only [List.length_drop, List.length_cons]; omega

theorem join_cut (length : Nat) (cs : List Char) :
    String.join (cut length cs) = String.ofList cs := by
  fun_induction cut length cs with
  | case1 => rfl
  | case2 c rest ih =>
    rw [String.join_cons, ih, ← String.ofList_append, List.cons_append, List.take_append_drop]

namespace Script

/-- The script with pieces of the wanted length, which has to be positive. -/
def make (items : List ScriptItem) (spare : String) (pieceLength : Int) :
    Except ArgumentError Script :=
  if h : 0 < pieceLength.toNat then .ok ⟨items, spare, pieceLength.toNat, h⟩
  else .error .chunkSize

/-- The item that a call uses up, by the number of the calls before it. -/
def item (script : Script) (earlier : Nat) : ScriptItem :=
  script.items.getD earlier (.text script.spare)

/-- The answer to a call, by the number of the calls before it. -/
def answer (script : Script) (earlier : Nat) : Answer :=
  match script.item earlier with
  | .text value => { pieces := cut script.pieceLength value.toList }
  | .answer value => value

/-- How many items are left after a number of calls. -/
def remaining (script : Script) (calls : Nat) : Nat := script.items.length - calls

end Script

end WorkflowRepair.Completion
