import WorkflowRepair.Proofs.Template.Texts
import WorkflowRepair.Proofs.Template.Wording

/-!
Texts that are read again after their references were replaced. The text values stand where they
stood. Of references of some sort, when none of what is put in is of that sort, those are left that
were not replaced, in their order; that each expression is listed once makes no difference to this.
-/

namespace WorkflowRepair

/-! ### References -/

namespace Template

variable {newName : Reference → Option String} {p : Reference → Bool}

/-- A reference that was read is told by its expression. -/
theorem eq_ofExpression {body : List Char} {r : Reference}
    (read : Reference.ofBody? body = some r) : r = Reference.ofExpression r.expression := by
  unfold Reference.ofBody? at read
  split at read
  · cases read
  · rw [← Option.some.inj read]
    rfl

/-- Listing each expression once and leaving out references can be done in either order, since what
shares its expression with a reference is left out like it. -/
theorem filter_distinct {rs : List Reference}
    (told : ∀ r ∈ rs, r = Reference.ofExpression r.expression) :
    (distinct rs).filter p = distinct (rs.filter p) := by
  induction rs with
  | nil => rfl
  | cons r rest ih =>
    obtain ⟨here, later⟩ := List.forall_mem_cons.1 told
    rw [distinct]
    by_cases kept : p r = true
    · rw [List.filter_cons_of_pos kept, List.filter_cons_of_pos kept, distinct, ← ih later,
        List.filter_comm]
    · have others : ∀ s ∈ (distinct rest).filter p,
          decide (s.expression ≠ r.expression) = true := by
        intro s mem
        obtain ⟨mem, kept'⟩ := List.mem_filter.1 mem
        refine decide_eq_true fun same => kept ?_
        rw [here, ← same, ← later s (distinct_subset rest mem)]
        exact kept'
      rw [List.filter_cons_of_neg kept, List.filter_cons_of_neg kept, ← ih later, List.filter_comm,
        List.filter_eq_self.2 others]

/-- Listing each expression once leaves out no reference. -/
theorem mem_distinct {rs : List Reference}
    (told : ∀ r ∈ rs, r = Reference.ofExpression r.expression) {r : Reference} (mem : r ∈ rs) :
    r ∈ distinct rs := by
  induction rs with
  | nil => cases mem
  | cons first rest ih =>
    obtain ⟨here, later⟩ := List.forall_mem_cons.1 told
    by_cases same : r.expression = first.expression
    · rw [told r mem, same, ← here]
      exact List.mem_cons_self
    · have inside : r ∈ rest := (List.mem_cons.1 mem).resolve_left fun equal => same (equal ▸ rfl)
      exact List.mem_cons_of_mem _ (List.mem_filter.2 ⟨ih later inside, by simpa using same⟩)

/-- Each reference in a slot of a text is listed. -/
theorem mem_references {text : String} {piece : Piece} {r : Reference}
    (mem : piece ∈ pieces text.toList) (read : piece.reference? = some r) :
    r ∈ references text := by
  refine mem_distinct (fun s inside => ?_) (List.mem_filterMap.2 ⟨piece, mem, read⟩)
  obtain ⟨other, -, found⟩ := List.mem_filterMap.1 inside
  cases other with
  | char c => cases found
  | slot body => exact eq_ofExpression found

/-- Nothing that is put in is read back as a reference of the sort. -/
def PutsNone (newName : Reference → Option String) (p : Reference → Bool) : Prop :=
  ∀ body reference expression, IsBody body → Reference.ofBody? body = some reference →
    newName reference = some expression →
      ∀ r, Reference.ofBody? expression.toList = some r → p r = false

theorem Piece.reference?_rewritten (apart : PutsNone newName p) {piece : Piece}
    (proper : piece.Proper) :
    (piece.rewritten newName).reference?.filter p =
      piece.reference?.filter fun r => p r && (newName r).isNone := by
  cases read : piece.reference? with
  | none => simp [rewritten, read]
  | some reference =>
    cases new : newName reference with
    | none => simp [rewritten, read, new, Option.filter_some]
    | some expression =>
      cases piece with
      | char c => cases read
      | slot body =>
        have put := apart body reference expression proper read new
        have now : (Piece.slot body).rewritten newName = .slot expression.toList := by
          simp [rewritten, read, new]
        rw [now, Option.filter_some, new, Option.isNone_some, Bool.and_false]
        exact Option.filter_eq_none_iff.2 fun r again => by simp [put r again]

/-- The references of the sort that the new text has. -/
theorem references_replace (fits : Fits newName) (apart : PutsNone newName p) (text : String) :
    (references (replace newName text)).filter p =
      (references text).filter fun r => p r && (newName r).isNone := by
  have told (cs : List Char) : ∀ r ∈ (pieces cs).filterMap Piece.reference?,
      r = Reference.ofExpression r.expression := by
    intro r mem
    obtain ⟨piece, -, read⟩ := List.mem_filterMap.1 mem
    cases piece with
    | char c => cases read
    | slot body => exact eq_ofExpression read
  rw [references, references, filter_distinct (told _), filter_distinct (told _),
    pieces_replace fits, List.filterMap_map, List.filter_filterMap, List.filter_filterMap]
  refine congrArg distinct (List.filterMap_congr fun piece mem => ?_)
  exact Piece.reference?_rewritten apart (proper_of_mem_pieces piece mem)

end Template

/-! ### Text values -/

namespace TextField

/-- The field with another text in its place. -/
def mapValue (f : String → String) (field : TextField) : TextField :=
  { field with value := f field.value }

section Mapped

variable (f : String → String)

mutual

theorem ofJson_mapTexts (path : String) (step : PathStep) : (j : Json) →
    ofJson path step (j.mapTexts f) = (ofJson path step j).map (mapValue f)
  | .str _ => rfl
  | .obj members => ofMembers_mapTexts path members
  | .arr items => ofItems_mapTexts path 0 items
  | .null | .bool _ | .num _ => rfl

theorem ofMembers_mapTexts (path : String) : (members : List (String × Json)) →
    ofMembers path (Json.mapTextsMembers f members) = (ofMembers path members).map (mapValue f)
  | [] => rfl
  | (key, j) :: rest => by
    rw [Json.mapTextsMembers, ofMembers, ofMembers, List.map_append, ofJson_mapTexts,
      ofMembers_mapTexts]

theorem ofItems_mapTexts (path : String) (place : Nat) : (items : List Json) →
    ofItems path place (Json.mapTextsItems f items) = (ofItems path place items).map (mapValue f)
  | [] => rfl
  | j :: rest => by
    rw [Json.mapTextsItems, ofItems, ofItems, List.map_append, ofJson_mapTexts, ofItems_mapTexts]

end

/-- The text values of the data are changed in their places. -/
theorem all_mapTexts (data : Members) :
    all dataPath (Members.mapTexts f data) = (all dataPath data).map (mapValue f) := by
  have unlabelled : (Members.mapTexts f data).filter (·.1 ≠ "label") =
      Json.mapTextsMembers f (data.filter (·.1 ≠ "label")) := by
    induction data with
    | nil => rfl
    | cons m rest ih =>
      rw [Members.mapTexts] at ih ⊢
      rw [List.map_cons]
      by_cases label : m.1 = "label"
      · simpa [label] using ih
      · simpa [label, Json.mapTextsMembers] using ih
  rw [all, all, if_pos rfl, if_pos rfl, unlabelled, ofMembers_mapTexts]

end Mapped

/-- To look for references among the text values that may hold some is to look among all. -/
theorem flatMap_templates {β : Type} {check : TextField → List β}
    (none : ∀ field, Template.references field.value = [] → check field = []) (data : Members) :
    (templates data).flatMap check = (all dataPath data).flatMap check := by
  rw [templates]
  induction all dataPath data with
  | nil => rfl
  | cons field rest ih =>
    rw [List.flatMap_cons, List.filter_cons]
    split
    · rw [List.flatMap_cons, ih]
    · next plain =>
      have silent : Template.references field.value = [] :=
        List.eq_nil_iff_forall_not_mem.2 fun r mem => plain (Template.isTemplate_of_reference mem)
      rw [none field silent, List.nil_append, ih]

end TextField

end WorkflowRepair
