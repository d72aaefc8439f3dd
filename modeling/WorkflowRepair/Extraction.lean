import WorkflowRepair.Json.Reader
import WorkflowRepair.Text.Case

/-!
Finding an object in a text that holds other things too. From every opening brace on, the
characters up to the brace that closes it, quoted ones aside, are a candidate; the first candidate
that reads as an object with the wanted key, whatever its case, is taken.
-/

namespace WorkflowRepair.Extraction

/-- Where the scan for the closing brace is: how many braces are open, and whether in a quoted part
or behind a backslash there. -/
structure Nesting where
  depth : Nat := 0
  quoted : Bool := false
  escaped : Bool := false
deriving DecidableEq, Repr

/-- The nesting after one more character. -/
def Nesting.next (n : Nesting) (c : Char) : Nesting :=
  if n.escaped then { n with escaped := false }
  else if n.quoted then
    if c = '\\' then { n with escaped := true }
    else if c = '"' then { n with quoted := false }
    else n
  else if c = '"' then { n with quoted := true }
  else if c = '\x7b' then { n with depth := n.depth + 1 }
  else if c = '\x7d' then { n with depth := n.depth - 1 }
  else n

/-- Whether the character closes the last open brace. -/
def Nesting.closes (n : Nesting) (c : Char) : Bool :=
  !n.escaped && !n.quoted && c = '\x7d' && n.depth = 1

/-- The characters up to the one that closes the last open brace. -/
def balanced? (n : Nesting) : List Char → Option (List Char)
  | [] => none
  | c :: rest =>
    if n.closes c then some [c] else (balanced? (n.next c) rest).map (c :: ·)

/-- The members of a text that is an object with the key, whatever its case. -/
def marked? (key : String) (candidate : List Char) : Option Members :=
  match Json.readChars candidate with
  | .ok (.obj members) =>
    if members.any fun m => Text.lower m.1 == Text.lower key then some members else none
  | _ => none

/-- The candidate at the front of the characters, when it is what is wanted. -/
def objectAt? (key : String) (cs : List Char) : Option (List Char × Members) :=
  match cs with
  | '\x7b' :: _ =>
    (balanced? {} cs).bind fun candidate => (marked? key candidate).map ((candidate, ·))
  | _ => none

/-- The first object with the key, as written and as read. -/
def find? (key : String) : List Char → Option (List Char × Members)
  | [] => none
  | c :: rest =>
    match objectAt? key (c :: rest) with
    | some found => some found
    | none => find? key rest

/-- The key that marks a workflow. -/
def standardKey : String := "nodes"

/-- The text of the first object with the key. -/
def extract? (key text : String) : Option String :=
  (find? key text.toList).map fun found => String.ofList found.1

/-- The members of the first object with the key. -/
def payload? (key text : String) : Option Members := (find? key text.toList).map Prod.snd

end WorkflowRepair.Extraction
