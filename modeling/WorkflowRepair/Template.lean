import WorkflowRepair.Text.Blank
import WorkflowRepair.Text.Case

/-!
References in text: what stands between two opening and two closing braces names a node and a path
into its output. A text is cut into pieces, single characters and slots, which lose nothing; both
the references of a text and their replacement are read off the pieces.
-/

namespace WorkflowRepair

/-- A reference: the expression without outer blanks, the name before the first point or bracket,
and the path from there on. -/
structure Reference where
  expression : String
  name : String
  path : String
deriving DecidableEq, Repr

namespace Template

def opening : List Char := ['\x7b', '\x7b']

def closing : List Char := ['\x7d', '\x7d']

def braced (body : String) : String := String.ofList (opening ++ body.toList ++ closing)

/-- A piece of a text: a character, or a slot with its body. -/
inductive Piece where
  | char (c : Char)
  | slot (body : List Char)
deriving DecidableEq, Repr

def Piece.chars : Piece → List Char
  | .char c => [c]
  | .slot body => opening ++ body ++ closing

/-- Whether a character may stand in the body of a slot. -/
def isBody (c : Char) : Bool := c ≠ '\x7d'

/-- The body of the slot at the front of the characters, when there is one. -/
def slot? (cs : List Char) : Option (List Char) :=
  match cs with
  | '\x7b' :: '\x7b' :: rest =>
    let body := rest.takeWhile isBody
    if !body.isEmpty && closing.isPrefixOf (rest.dropWhile isBody) then some body else none
  | _ => none

def pieces : List Char → List Piece
  | [] => []
  | c :: rest =>
    match slot? (c :: rest) with
    | some body => .slot body :: pieces (rest.drop (body.length + 3))
    | none => .char c :: pieces rest
termination_by cs => cs.length
decreasing_by
  · simp only [List.length_drop, List.length_cons]; omega
  · simp

/-- A slot's body stands in full at the front, between its braces. -/
theorem eq_of_slot? {cs body : List Char} (h : slot? cs = some body) :
    cs = opening ++ body ++ closing ++ cs.drop (body.length + 4) := by
  unfold slot? at h
  split at h
  · next rest =>
    dsimp only at h
    split at h
    · next hcond =>
      cases h
      simp only [Bool.and_eq_true, List.isPrefixOf_iff_prefix] at hcond
      obtain ⟨tail, htail⟩ := hcond.2
      have hsplit : rest = rest.takeWhile isBody ++ rest.dropWhile isBody :=
        (List.takeWhile_append_dropWhile).symm
      rw [← htail] at hsplit
      generalize rest.takeWhile isBody = body at hsplit
      subst hsplit
      simp [opening, closing, List.drop_append]
    · exact absurd h (by simp)
  · exact absurd h (by simp)

/-- The pieces lose nothing of the text. -/
theorem flatMap_chars_pieces (cs : List Char) : (pieces cs).flatMap Piece.chars = cs := by
  fun_induction pieces cs with
  | case1 => rfl
  | case2 c rest body h ih =>
    have := eq_of_slot? h
    simp only [List.flatMap_cons, Piece.chars, ih]
    rw [List.drop_succ_cons] at this
    exact this.symm
  | case3 c rest h ih => simp [Piece.chars, ih]

end Template

namespace Reference

def endsName (c : Char) : Bool := c = '.' ∨ c = '['

/-- The name and the path of an expression. -/
def split (expression : String) : String × String :=
  let cs := expression.toList
  (String.ofList (Text.trim (cs.takeWhile (!endsName ·))),
    String.ofList (cs.dropWhile (!endsName ·)))

def ofExpression (expression : String) : Reference :=
  let parts := split expression
  ⟨expression, parts.1, parts.2⟩

/-- The reference in the body of a slot, when the body is not blank. -/
def ofBody? (body : List Char) : Option Reference :=
  match Text.trim body with
  | [] => none
  | cs => some (ofExpression (String.ofList cs))

/-- The expression with another name before the same path. -/
def renamed (reference : Reference) (name : String) : String := name ++ reference.path

end Reference

namespace Template

def Piece.reference? : Piece → Option Reference
  | .char _ => none
  | .slot body => Reference.ofBody? body

/-- Keeps the first of the references that share an expression. -/
def distinct : List Reference → List Reference
  | [] => []
  | r :: rest => r :: (distinct rest).filter fun s => s.expression ≠ r.expression

/-- The references of a text in order, each expression once. -/
def references (text : String) : List Reference :=
  distinct ((pieces text.toList).filterMap Piece.reference?)

/-- The characters of a piece after replacement. -/
def Piece.replaced (newName : Reference → Option String) (piece : Piece) : List Char :=
  match piece.reference?.bind newName with
  | some expression => opening ++ expression.toList ++ closing
  | none => piece.chars

def replace (newName : Reference → Option String) (text : String) : String :=
  String.ofList ((pieces text.toList).flatMap (Piece.replaced newName))

def replaceCount (newName : Reference → Option String) (text : String) : Nat :=
  (pieces text.toList).countP fun piece => (piece.reference?.bind newName).isSome

/-- The form under which labels are compared: words joined by single spaces, in lower case. -/
def normalLabel (label : String) : String :=
  Text.lower (String.ofList ((Text.words label.toList).intersperse [' ']).flatten)

end Template

end WorkflowRepair
