import WorkflowRepair.Template.Field

/-!
The text values of the data of a node: they are the texts that stand anywhere in it but in the
label, and one with a reference has both braces of a slot in it, so that no reference is passed
over.
-/

namespace WorkflowRepair

/-- The text stands somewhere in the document as a value. -/
inductive Json.Holds : Json → String → Prop
  | here (s : String) : Holds (.str s) s
  | item {items : List Json} {j : Json} {s : String} : j ∈ items → Holds j s → Holds (.arr items) s
  | member {members : List (String × Json)} {key : String} {j : Json} {s : String} :
      (key, j) ∈ members → Holds j s → Holds (.obj members) s

namespace TextField

variable {path s : String} {step : PathStep} {field : TextField}

mutual

theorem holds_of_mem_ofJson {path : String} {step : PathStep} {field : TextField} :
    (j : Json) → field ∈ ofJson path step j → j.Holds field.value
  | .str s, mem => by
    rw [ofJson, List.mem_singleton] at mem
    rw [mem]
    exact .here s
  | .arr items, mem => by
    obtain ⟨j, inside, holds⟩ := exists_of_mem_ofItems items mem
    exact .item inside holds
  | .obj members, mem => by
    obtain ⟨key, j, inside, holds⟩ := exists_of_mem_ofMembers members mem
    exact .member inside holds
  | .null, mem | .bool _, mem | .num _, mem => absurd mem List.not_mem_nil

theorem exists_of_mem_ofItems {path : String} {place : Nat} {field : TextField} :
    (items : List Json) → field ∈ ofItems path place items →
      ∃ j, j ∈ items ∧ j.Holds field.value
  | [], mem => absurd mem List.not_mem_nil
  | j :: rest, mem => by
    rcases List.mem_append.1 mem with first | later
    · exact ⟨j, List.mem_cons_self, holds_of_mem_ofJson j first⟩
    · obtain ⟨j', inside, holds⟩ := exists_of_mem_ofItems rest later
      exact ⟨j', List.mem_cons_of_mem _ inside, holds⟩

theorem exists_of_mem_ofMembers {path : String} {field : TextField} :
    (members : List (String × Json)) → field ∈ ofMembers path members →
      ∃ key j, (key, j) ∈ members ∧ j.Holds field.value
  | [], mem => absurd mem List.not_mem_nil
  | (key, j) :: rest, mem => by
    rcases List.mem_append.1 mem with first | later
    · exact ⟨key, j, List.mem_cons_self, holds_of_mem_ofJson j first⟩
    · obtain ⟨key', j', inside, holds⟩ := exists_of_mem_ofMembers rest later
      exact ⟨key', j', List.mem_cons_of_mem _ inside, holds⟩

end

theorem ofJson_subset_ofMembers {key : String} {j : Json} {members : List (String × Json)}
    (h : (key, j) ∈ members) :
    ofJson (path ++ "." ++ key) (.key key) j ⊆ ofMembers path members := by
  induction members with
  | nil => cases h
  | cons m rest ih =>
    rcases List.mem_cons.1 h with rfl | later
    · exact List.subset_append_left _ _
    · exact List.subset_append_of_subset_right _ (ih later)

theorem exists_ofJson_subset_ofItems {j : Json} {items : List Json} (h : j ∈ items) (place : Nat) :
    ∃ path' step', ofJson path' step' j ⊆ ofItems path place items := by
  induction items generalizing place with
  | nil => cases h
  | cons item rest ih =>
    rcases List.mem_cons.1 h with rfl | later
    · exact ⟨_, _, List.subset_append_left _ _⟩
    · obtain ⟨path', step', inside⟩ := ih later (place + 1)
      exact ⟨path', step', List.subset_append_of_subset_right _ inside⟩

theorem exists_of_holds {j : Json} (h : j.Holds s) (path : String) (step : PathStep) :
    ∃ field ∈ ofJson path step j, field.value = s := by
  induction h generalizing path step with
  | here s => exact ⟨_, List.mem_singleton_self _, rfl⟩
  | item inside _ ih =>
    obtain ⟨path', step', below⟩ := @exists_ofJson_subset_ofItems path _ _ inside 0
    obtain ⟨field, mem, value⟩ := ih path' step'
    exact ⟨field, below mem, value⟩
  | member inside _ ih =>
    obtain ⟨field, mem, value⟩ := ih _ _
    exact ⟨field, ofJson_subset_ofMembers inside mem, value⟩

/-- The text values of the data are the texts in it but for the label. -/
theorem exists_mem_all_iff {data : Members} : (∃ field ∈ all dataPath data, field.value = s) ↔
    ∃ key j, (key, j) ∈ data ∧ key ≠ "label" ∧ j.Holds s := by
  have members (key : String) (j : Json) :
      (key, j) ∈ data.filter (·.1 ≠ "label") ↔ (key, j) ∈ data ∧ key ≠ "label" := by
    simp [List.mem_filter]
  unfold all
  rw [if_pos rfl]
  constructor
  · rintro ⟨field, mem, rfl⟩
    obtain ⟨key, j, inside, holds⟩ := exists_of_mem_ofMembers _ mem
    obtain ⟨inside, other⟩ := (members key j).1 inside
    exact ⟨key, j, inside, other, holds⟩
  · rintro ⟨key, j, inside, other, holds⟩
    obtain ⟨field, mem, value⟩ := exists_of_holds holds (dataPath ++ "." ++ key) (.key key)
    exact ⟨field, ofJson_subset_ofMembers ((members key j).2 ⟨inside, other⟩) mem, value⟩

end TextField

/-! ### Texts without their places -/

namespace Json

mutual

/-- The texts that stand in a document as values, in order. -/
def texts : Json → List String
  | .str s => [s]
  | .obj members => textsOfMembers members
  | .arr items => textsOfItems items
  | .null | .bool _ | .num _ => []

def textsOfMembers : List (String × Json) → List String
  | [] => []
  | (_, j) :: rest => texts j ++ textsOfMembers rest

def textsOfItems : List Json → List String
  | [] => []
  | j :: rest => texts j ++ textsOfItems rest

end

theorem textsOfMembers_eq_flatMap (members : List (String × Json)) :
    textsOfMembers members = members.flatMap fun m => m.2.texts := by
  induction members with
  | nil => rfl
  | cons m rest ih => rw [textsOfMembers, ih, List.flatMap_cons]

end Json

/-- The texts in the data of a node but for the label. -/
def Members.texts (data : Members) : List String :=
  (data.filter (·.1 ≠ "label")).flatMap fun m => m.2.texts

namespace TextField

mutual

theorem values_ofJson (path : String) (step : PathStep) : (j : Json) →
    (ofJson path step j).map value = j.texts
  | .str _ => rfl
  | .obj members => values_ofMembers path members
  | .arr items => values_ofItems path 0 items
  | .null | .bool _ | .num _ => rfl

theorem values_ofMembers (path : String) : (members : List (String × Json)) →
    (ofMembers path members).map value = Json.textsOfMembers members
  | [] => rfl
  | (key, j) :: rest => by
    rw [ofMembers, Json.textsOfMembers, List.map_append, values_ofJson, values_ofMembers]

theorem values_ofItems (path : String) (place : Nat) : (items : List Json) →
    (ofItems path place items).map value = Json.textsOfItems items
  | [] => rfl
  | j :: rest => by
    rw [ofItems, Json.textsOfItems, List.map_append, values_ofJson, values_ofItems]

end

theorem values_all (data : Members) : (all dataPath data).map value = data.texts := by
  rw [all, if_pos rfl, values_ofMembers, Json.textsOfMembers_eq_flatMap]
  rfl

end TextField

/-! ### Slots -/

namespace Text

theorem after?_self (pattern rest : List Char) : after? pattern (pattern ++ rest) = some rest := by
  induction pattern with
  | nil => rfl
  | cons c pattern ih =>
    show (if c = c then after? pattern (pattern ++ rest) else none) = some rest
    rw [if_pos rfl, ih]

theorem occurs_append (before pattern rest : List Char) :
    occurs pattern (before ++ (pattern ++ rest)) = true := by
  unfold occurs
  induction before with
  | nil =>
    have here := after?_self pattern rest
    rw [List.nil_append]
    cases whole : pattern ++ rest with
    | nil =>
      rw [whole] at here
      simp [splitFirst?, here]
    | cons c cs =>
      rw [whole] at here
      simp [splitFirst?, here]
  | cons c before ih =>
    rw [List.cons_append]
    unfold splitFirst?
    split
    · rfl
    · rw [Option.isSome_map]
      exact ih

end Text

namespace Template

theorem distinct_subset (references : List Reference) : distinct references ⊆ references := by
  induction references with
  | nil => exact List.nil_subset _
  | cons r rest ih =>
    refine List.cons_subset_cons _ fun s mem => ih ?_
    exact (List.mem_filter.1 mem).1

/-- A reference stands in a slot of the text. -/
theorem exists_slot_of_reference {text : String} {r : Reference} (h : r ∈ references text) :
    ∃ before body after, text.toList = before ++ (opening ++ (body ++ (closing ++ after))) := by
  obtain ⟨p, mem, found⟩ := List.mem_filterMap.1 (distinct_subset _ h)
  cases p with
  | char c => cases found
  | slot body =>
    obtain ⟨front, back, parts⟩ := List.append_of_mem mem
    refine ⟨front.flatMap Piece.chars, body, back.flatMap Piece.chars, ?_⟩
    rw [← flatMap_chars_pieces text.toList, parts]
    simp [Piece.chars]

theorem isTemplate_of_reference {field : TextField} {r : Reference}
    (h : r ∈ references field.value) : field.isTemplate = true := by
  obtain ⟨before, body, after, text⟩ := exists_slot_of_reference h
  rw [TextField.isTemplate, Bool.and_eq_true, text]
  refine ⟨Text.occurs_append _ _ _, ?_⟩
  rw [← List.append_assoc, ← List.append_assoc]
  exact Text.occurs_append _ _ _

end Template

end WorkflowRepair
