import Mathlib.Data.List.Basic
import Mathlib.Data.List.TakeWhile
import WorkflowRepair.Template

/-!
The pieces of a text in which references were replaced. When every new expression may stand in a
slot, the slots of the new text are those of the old one with their new bodies: no slot is lost,
none comes up, and what stands between them is the same. A text none of whose references is replaced
is left as it is.
-/

namespace WorkflowRepair.Template

variable {newName : Reference → Option String}

/-- The characters may stand in a slot: there are some, and no closing brace is among them. -/
def IsBody (body : List Char) : Prop := body ≠ [] ∧ ∀ c ∈ body, isBody c = true

/-- A character, or a slot with a body. -/
def Piece.Proper : Piece → Prop
  | .char _ => True
  | .slot body => IsBody body

theorem takeWhile_body {body : List Char} (h : ∀ c ∈ body, isBody c = true) (rest : List Char) :
    (body ++ closing ++ rest).takeWhile isBody = body := by
  rw [List.append_assoc, List.takeWhile_append_of_pos h]
  simp [closing, isBody]

theorem dropWhile_body {body : List Char} (h : ∀ c ∈ body, isBody c = true) (rest : List Char) :
    (body ++ closing ++ rest).dropWhile isBody = closing ++ rest := by
  rw [List.append_assoc, List.dropWhile_append_of_pos h]
  simp [closing, isBody]

theorem slot?_slot {body : List Char} (h : IsBody body) (rest : List Char) :
    slot? (opening ++ body ++ closing ++ rest) = some body := by
  have taken := takeWhile_body h.2 rest
  have left := dropWhile_body h.2 rest
  have some : body.isEmpty = false := by simpa using h.1
  show slot? ('\x7b' :: '\x7b' :: (body ++ closing ++ rest)) = _
  simp only [slot?, taken, left, some, Bool.not_false, Bool.true_and]
  rw [if_pos (List.isPrefixOf_iff_prefix.2 (List.prefix_append _ _))]

theorem isBody_of_slot? {cs body : List Char} (h : slot? cs = some body) : IsBody body := by
  unfold slot? at h
  split at h
  · next rest =>
    dsimp only at h
    split at h
    · next given =>
      cases h
      rw [Bool.and_eq_true] at given
      exact ⟨by simpa using given.1, fun c hc => List.mem_takeWhile_imp hc⟩
    · cases h
  · cases h

theorem pieces_slot {body : List Char} (h : IsBody body) (rest : List Char) :
    pieces (opening ++ body ++ closing ++ rest) = .slot body :: pieces rest := by
  have found := slot?_slot h rest
  have front : opening ++ body ++ closing ++ rest =
      '\x7b' :: ('\x7b' :: (body ++ closing ++ rest)) := rfl
  rw [front] at found ⊢
  have behind : ('\x7b' :: (body ++ closing ++ rest)).drop (body.length + 3) = rest := by
    simp [closing, List.drop_append]
  rw [pieces, found]
  simp only [behind]

theorem pieces_char {c : Char} {rest : List Char} (h : slot? (c :: rest) = none) :
    pieces (c :: rest) = .char c :: pieces rest := by
  rw [pieces, h]

theorem proper_of_mem_pieces {cs : List Char} : ∀ p ∈ pieces cs, p.Proper := by
  fun_induction pieces cs with
  | case1 =>
    intro p mem
    cases mem
  | case2 c rest body found ih => exact List.forall_mem_cons.2 ⟨isBody_of_slot? found, ih⟩
  | case3 c rest found ih => exact List.forall_mem_cons.2 ⟨trivial, ih⟩

/-! ### Texts whose references are not replaced -/

theorem Piece.replaced_of_none {p : Piece} (h : p.reference?.bind newName = none) :
    p.replaced newName = p.chars := by
  rw [replaced, h]

theorem replace_eq_self {text : String}
    (h : ∀ p ∈ pieces text.toList, p.reference?.bind newName = none) :
    replace newName text = text := by
  have same : (pieces text.toList).flatMap (Piece.replaced newName) =
      (pieces text.toList).flatMap Piece.chars :=
    List.flatMap_congr fun p hp => Piece.replaced_of_none (h p hp)
  rw [replace, same, flatMap_chars_pieces, String.ofList_toList]

theorem references_ne_nil {text : String} {p : Piece} {reference : Reference}
    (mem : p ∈ pieces text.toList) (h : p.reference? = some reference) : references text ≠ [] := by
  intro none
  have inside : reference ∈ (pieces text.toList).filterMap Piece.reference? :=
    List.mem_filterMap.2 ⟨p, mem, h⟩
  rw [references] at none
  cases found : (pieces text.toList).filterMap Piece.reference? with
  | nil =>
    rw [found] at inside
    cases inside
  | cons first rest =>
    rw [found] at none
    cases none

/-- A text changes only when it holds a reference, and then something is left in it. -/
theorem replace_cases (newName : Reference → Option String) (text : String) :
    replace newName text = text ∨
      references text ≠ [] ∧ Text.isBlankText (replace newName text) = false := by
  by_cases all : ∀ p ∈ pieces text.toList, p.reference?.bind newName = none
  · exact .inl (replace_eq_self all)
  · right
    simp only [not_forall] at all
    obtain ⟨p, mem, new⟩ := all
    obtain ⟨expression, found⟩ := Option.ne_none_iff_exists'.1 new
    obtain ⟨reference, inside, -⟩ := Option.bind_eq_some_iff.1 found
    refine ⟨references_ne_nil mem inside, ?_⟩
    have brace : '\x7b' ∈ p.replaced newName := by
      rw [Piece.replaced, found]
      exact List.mem_cons_self
    rw [Text.isBlankText, replace, String.toList_ofList, List.all_eq_false]
    exact ⟨_, List.mem_flatMap.2 ⟨p, mem, brace⟩, by decide⟩

/-! ### The pieces of the new text -/

/-- A piece with its new body. -/
def Piece.rewritten (newName : Reference → Option String) (p : Piece) : Piece :=
  match p.reference?.bind newName with
  | some expression => .slot expression.toList
  | none => p

theorem Piece.replaced_eq (p : Piece) : p.replaced newName = (p.rewritten newName).chars := by
  unfold replaced rewritten
  cases p.reference?.bind newName <;> rfl

/-- Whatever is put into a slot may stand in one. -/
def Fits (newName : Reference → Option String) : Prop :=
  ∀ body reference expression, IsBody body → Reference.ofBody? body = some reference →
    newName reference = some expression → IsBody expression.toList

theorem Piece.proper_rewritten {p : Piece} (fits : Fits newName) (h : p.Proper) :
    (p.rewritten newName).Proper := by
  unfold rewritten
  cases p with
  | char c => exact h
  | slot body =>
    cases found : (Piece.slot body).reference?.bind newName with
    | none => exact h
    | some expression =>
      obtain ⟨reference, inside, new⟩ := Option.bind_eq_some_iff.1 found
      exact fits body reference expression h inside new

/-- A piece begins as its new form does: characters stay, and slots are opened alike. -/
theorem Piece.head?_rewritten (p : Piece) (rest rest' : List Char) :
    ((p.rewritten newName).chars ++ rest').head? = (p.chars ++ rest).head? := by
  cases p with
  | char c => rfl
  | slot body =>
    unfold rewritten
    cases (Piece.slot body).reference?.bind newName <;> rfl

theorem head?_rewritten (ps : List Piece) :
    (ps.flatMap fun p => (p.rewritten newName).chars).head? = (ps.flatMap Piece.chars).head? := by
  cases ps with
  | nil => rfl
  | cons p rest =>
    rw [List.flatMap_cons, List.flatMap_cons]
    exact p.head?_rewritten _ _

/-- Whether the first closing brace is followed by another one. -/
def closesFirst (cs : List Char) : Bool := closing.isPrefixOf (cs.dropWhile isBody)

theorem closesFirst_slot {body : List Char} (h : IsBody body) (rest : List Char) :
    closesFirst (opening ++ body ++ closing ++ rest) = true := by
  have inside : ∀ c ∈ opening ++ body, isBody c = true := by
    intro c hc
    rcases List.mem_append.1 hc with brace | hc
    · have same : c = '\x7b' := by simpa [opening] using brace
      rw [same]
      rfl
    · exact h.2 c hc
  rw [closesFirst, dropWhile_body inside, List.isPrefixOf_iff_prefix]
  exact List.prefix_append _ _

theorem closesFirst_brace (cs : List Char) :
    closesFirst ('\x7d' :: cs) = (cs.head? == some '\x7d') := by
  cases cs with
  | nil => rfl
  | cons c rest =>
    simp [closesFirst, isBody, closing, List.isPrefixOf, Bool.beq_comm]

theorem closesFirst_char {c : Char} (h : isBody c = true) (cs : List Char) :
    closesFirst (c :: cs) = closesFirst cs := by
  simp [closesFirst, h]

theorem closesFirst_rewritten (fits : Fits newName) {ps : List Piece} (h : ∀ p ∈ ps, p.Proper) :
    closesFirst (ps.flatMap fun p => (p.rewritten newName).chars) =
      closesFirst (ps.flatMap Piece.chars) := by
  induction ps with
  | nil => rfl
  | cons p rest ih =>
    obtain ⟨here, later⟩ := List.forall_mem_cons.1 h
    rw [List.flatMap_cons, List.flatMap_cons]
    cases p with
    | char c =>
      show closesFirst (c :: rest.flatMap fun p => (p.rewritten newName).chars) =
        closesFirst (c :: rest.flatMap Piece.chars)
      by_cases inside : isBody c = true
      · rw [closesFirst_char inside, closesFirst_char inside]
        exact ih later
      · have brace : c = '\x7d' := by simpa [isBody] using inside
        rw [brace, closesFirst_brace, closesFirst_brace, head?_rewritten]
    | slot body =>
      have new := (Piece.slot body).proper_rewritten fits here
      have old : closesFirst ((Piece.slot body).chars ++ rest.flatMap Piece.chars) = true :=
        closesFirst_slot here _
      rw [old]
      unfold Piece.rewritten at new ⊢
      cases found : (Piece.slot body).reference?.bind newName with
      | none => exact closesFirst_slot here _
      | some expression =>
        rw [found] at new
        exact closesFirst_slot new _

/-- Whether a slot begins with a character is seen from what comes first after it and from the first
closing brace. -/
theorem slot?_eq_none_iff {c : Char} {cs : List Char} :
    slot? (c :: cs) = none ↔ ¬ (c = '\x7b' ∧ ∃ rest, cs = '\x7b' :: rest ∧
      rest.head?.any isBody = true ∧ closesFirst rest = true) := by
  unfold slot?
  split
  · next rest front =>
    cases front
    have some : (rest.takeWhile isBody).isEmpty = !(rest.head?.any isBody) := by
      cases rest with
      | nil => rfl
      | cons d rest => by_cases inside : isBody d = true <;> simp [inside]
    simp [some, closesFirst]
  · next other =>
    refine iff_of_true rfl ?_
    rintro ⟨rfl, rest, rfl, -⟩
    exact other rest rfl

/-- A character that begins no slot begins none of the new text, since such a slot would be one of
the old text. -/
theorem slot?_rewritten (fits : Fits newName) {c : Char} {rest : List Char}
    (h : slot? (c :: rest) = none) :
    slot? (c :: (pieces rest).flatMap fun p => (p.rewritten newName).chars) = none := by
  have proper : ∀ p ∈ pieces rest, p.Proper := proper_of_mem_pieces
  have whole : (pieces rest).flatMap Piece.chars = rest := flatMap_chars_pieces rest
  generalize pieces rest = ps at proper whole ⊢
  rw [slot?_eq_none_iff] at h ⊢
  rintro ⟨brace, front, second, first, closes⟩
  apply h
  cases ps with
  | nil => cases second
  | cons p ps =>
    obtain ⟨here, later⟩ := List.forall_mem_cons.1 proper
    rw [List.flatMap_cons] at second whole
    cases p with
    | char d =>
      obtain ⟨same, tail⟩ : d = '\x7b' ∧
          (ps.flatMap fun p => (p.rewritten newName).chars) = front := List.cons.inj second
      rw [← tail, head?_rewritten] at first
      rw [← tail, closesFirst_rewritten fits later] at closes
      refine ⟨brace, ps.flatMap Piece.chars, ?_, first, closes⟩
      rw [← whole, same]
      rfl
    | slot body =>
      refine ⟨brace, '\x7b' :: (body ++ closing ++ ps.flatMap Piece.chars), ?_, rfl, ?_⟩
      · rw [← whole]
        rfl
      · have old := closesFirst_slot here (ps.flatMap Piece.chars)
        exact (closesFirst_char rfl _).symm.trans old

/-- The pieces of the new text are the pieces of the old one with their new bodies. -/
theorem pieces_rewritten (fits : Fits newName) (cs : List Char) :
    pieces ((pieces cs).flatMap (Piece.replaced newName)) =
      (pieces cs).map (Piece.rewritten newName) := by
  have chars : Piece.replaced newName = fun p => (p.rewritten newName).chars := by
    funext p
    exact p.replaced_eq
  rw [chars]
  fun_induction pieces cs with
  | case1 => simp [pieces]
  | case2 c rest body found ih =>
    have proper := (Piece.slot body).proper_rewritten fits (isBody_of_slot? found)
    rw [List.flatMap_cons, List.map_cons]
    unfold Piece.rewritten at proper ⊢
    cases new : (Piece.slot body).reference?.bind newName with
    | none =>
      rw [new] at proper
      exact (pieces_slot proper _).trans (congrArg _ ih)
    | some expression =>
      rw [new] at proper
      exact (pieces_slot proper _).trans (congrArg _ ih)
  | case3 c rest none ih =>
    exact (pieces_char (slot?_rewritten fits none)).trans (congrArg _ ih)

theorem pieces_replace (fits : Fits newName) (text : String) :
    pieces (replace newName text).toList = (pieces text.toList).map (Piece.rewritten newName) := by
  rw [replace, String.toList_ofList]
  exact pieces_rewritten fits text.toList

end WorkflowRepair.Template
