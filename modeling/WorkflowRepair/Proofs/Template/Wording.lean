import WorkflowRepair.Proofs.Template.Replace
import WorkflowRepair.Proofs.Workflow.RoundTrip
import WorkflowRepair.Template.Field
import WorkflowRepair.Validation.Settings

/-!
Documents that differ in wording only: they have one shape, and only texts with a reference in them
may be other texts. Replacing references changes no more than the wording.
-/

namespace WorkflowRepair

/-- Some slot of the text holds a reference. -/
def Template.HasReference (text : String) : Prop := Template.references text ≠ []

mutual

/-- A document with other texts, at most, in the place of those that hold a reference. -/
inductive Json.Reworded : Json → Json → Prop
  | same (j : Json) : Reworded j j
  | text {s t : String} : Template.HasReference s → Text.isBlankText t = false →
      Reworded (.str s) (.str t)
  | arr {items items' : List Json} : RewordedItems items items' →
      Reworded (.arr items) (.arr items')
  | obj {members members' : List (String × Json)} : RewordedMembers members members' →
      Reworded (.obj members) (.obj members')

inductive Json.RewordedItems : List Json → List Json → Prop
  | nil : RewordedItems [] []
  | cons {j j' : Json} {rest rest' : List Json} : Json.Reworded j j' → RewordedItems rest rest' →
      RewordedItems (j :: rest) (j' :: rest')

inductive Json.RewordedMembers : List (String × Json) → List (String × Json) → Prop
  | nil : RewordedMembers [] []
  | cons {key : String} {j j' : Json} {rest rest' : List (String × Json)} : Json.Reworded j j' →
      RewordedMembers rest rest' → RewordedMembers ((key, j) :: rest) ((key, j') :: rest')

end

namespace Json

theorem RewordedItems.refl (items : List Json) : RewordedItems items items := by
  induction items with
  | nil => exact .nil
  | cons j rest ih => exact .cons (.same j) ih

theorem RewordedMembers.refl (members : List (String × Json)) :
    RewordedMembers members members := by
  induction members with
  | nil => exact .nil
  | cons m rest ih => exact .cons (.same m.2) ih

mutual

theorem Reworded.trans : {a b c : Json} → Reworded a b → Reworded b c → Reworded a c
  | _, _, _, .same _, h => h
  | _, _, _, h, .same _ => h
  | _, _, _, .text ref _, .text _ filled => .text ref filled
  | _, _, _, .arr h, .arr h' => .arr (h.trans h')
  | _, _, _, .obj h, .obj h' => .obj (h.trans h')

theorem RewordedItems.trans : {a b c : List Json} → RewordedItems a b → RewordedItems b c →
    RewordedItems a c
  | _, _, _, .nil, .nil => .nil
  | _, _, _, .cons h rest, .cons h' rest' => .cons (h.trans h') (rest.trans rest')

theorem RewordedMembers.trans : {a b c : List (String × Json)} → RewordedMembers a b →
    RewordedMembers b c → RewordedMembers a c
  | _, _, _, .nil, .nil => .nil
  | _, _, _, .cons h rest, .cons h' rest' => .cons (h.trans h') (rest.trans rest')

end

/-- A change of texts that touches none without a reference and leaves something in the others. -/
def Rewords (f : String → String) : Prop :=
  ∀ s, f s = s ∨ Template.HasReference s ∧ Text.isBlankText (f s) = false

variable {f : String → String}

theorem Rewords.comp {g : String → String} (h : Rewords f) (h' : Rewords g) : Rewords (f ∘ g) := by
  intro s
  rcases h' s with same | ⟨ref, filled⟩
  · rw [Function.comp_apply, same]
    exact h s
  · right
    refine ⟨ref, ?_⟩
    rcases h (g s) with same' | ⟨-, filled'⟩
    · rw [Function.comp_apply, same']
      exact filled
    · exact filled'

mutual

theorem Rewords.mapTexts (h : Rewords f) : (j : Json) → Reworded j (j.mapTexts f)
  | .str s => by
    rcases h s with same | ⟨ref, filled⟩
    · rw [Json.mapTexts, same]
      exact .same _
    · exact .text ref filled
  | .arr items => .arr (h.mapTextsItems items)
  | .obj members => .obj (h.mapTextsMembers members)
  | .null => .same _
  | .bool _ => .same _
  | .num _ => .same _

theorem Rewords.mapTextsItems (h : Rewords f) : (items : List Json) →
    RewordedItems items (Json.mapTextsItems f items)
  | [] => .nil
  | j :: rest => .cons (h.mapTexts j) (h.mapTextsItems rest)

theorem Rewords.mapTextsMembers (h : Rewords f) : (members : List (String × Json)) →
    RewordedMembers members (Json.mapTextsMembers f members)
  | [] => .nil
  | (_, j) :: rest => .cons (h.mapTexts j) (h.mapTextsMembers rest)

end

theorem Reworded.isFilled {j j' : Json} (h : Reworded j j')
    (filled : Validation.isFilled j = true) : Validation.isFilled j' = true := by
  cases h with
  | same => exact filled
  | text _ left => simpa [Validation.isFilled] using left
  | arr => cases filled
  | obj => cases filled

theorem Reworded.eq_num {j : Json} {n : Number} (h : Reworded j (.num n)) : j = .num n := by
  cases h
  rfl

theorem Reworded.members {j j' : Json} (h : Reworded j j') :
    RewordedMembers (j.obj?.getD []) (j'.obj?.getD []) := by
  cases h with
  | same => exact .refl _
  | text => exact .nil
  | arr => exact .nil
  | obj h => exact h

namespace RewordedMembers

variable {members members' : Members} {key : String}

theorem getD (h : RewordedMembers members members') (key : String) :
    Reworded (Members.getD members key) (Members.getD members' key) := by
  induction members generalizing members' with
  | nil =>
    cases h
    exact .same _
  | cons m rest ih =>
    cases h with
    | cons value later =>
      rw [Members.getD_cons, Members.getD_cons]
      split
      · exact value
      · exact ih later

theorem has (h : RewordedMembers members members') (key : String) :
    Members.has members' key = Members.has members key := by
  induction members generalizing members' with
  | nil =>
    cases h
    rfl
  | cons m rest ih =>
    cases h with
    | cons value later => exact congrArg _ (ih later)

theorem append {more more' : Members} (h : RewordedMembers members members')
    (h' : RewordedMembers more more') : RewordedMembers (members ++ more) (members' ++ more') := by
  induction members generalizing members' with
  | nil =>
    cases h
    exact h'
  | cons m rest ih =>
    cases h with
    | cons value later => exact .cons value (ih later)

theorem set {j j' : Json} (h : RewordedMembers members members') (key : String)
    (value : Reworded j j') :
    RewordedMembers (Members.set members key j) (Members.set members' key j') := by
  rw [Members.set, Members.set, h.has]
  split
  · clear * - h value
    induction members generalizing members' with
    | nil =>
      cases h
      exact .nil
    | cons m rest ih =>
      cases h with
      | cons here later =>
        simp only [List.map_cons]
        split
        · exact .cons value (ih later)
        · exact .cons here (ih later)
  · exact h.append (.cons value .nil)

theorem mappings (h : RewordedMembers members members') :
    RewordedMembers (Validation.mappings members) (Validation.mappings members') :=
  (h.getD "inputMappings").members

end RewordedMembers

theorem Rewords.data (h : Rewords f) (data : Members) :
    RewordedMembers data (Members.mapTexts f data) := by
  induction data with
  | nil => exact .nil
  | cons m rest ih =>
    rw [Members.mapTexts, List.map_cons]
    split
    · exact .cons (.same _) ih
    · exact .cons (h.mapTexts _) ih

/-- Replacing references rewords. -/
theorem rewords_replace (newName : Reference → Option String) :
    Rewords (Template.replace newName) :=
  Template.replace_cases newName

end Json

theorem Members.getD_set_self (members : Members) (key : String) (value : Json) :
    getD (set members key value) key = value := by
  unfold set
  split
  · next known =>
    induction members with
    | nil => cases known
    | cons m rest ih =>
      rw [List.map_cons, getD_cons]
      by_cases same : m.1 = key
      · simp [same]
      · simp only [same, if_false]
        exact ih (by simpa [has, same] using known)
  · next unknown =>
    induction members with
    | nil => simp [getD_cons]
    | cons m rest ih =>
      have other : ¬ m.1 = key := fun same => unknown (by simp [has, same])
      rw [List.cons_append, getD_cons, if_neg other]
      exact ih (by simpa [has, other] using unknown)

theorem Members.getD_set_of_ne {key key' : String} (members : Members) (value : Json)
    (other : key ≠ key') : getD (set members key value) key' = getD members key' := by
  unfold set
  split
  · next known =>
    clear known
    induction members with
    | nil => rfl
    | cons m rest ih =>
      rw [List.map_cons, getD_cons, getD_cons, ih]
      by_cases same : m.1 = key
      · simp [same, other]
      · simp [same]
  · next unknown =>
    clear unknown
    induction members with
    | nil => simp [getD_cons, other]
    | cons m rest ih => rw [List.cons_append, getD_cons, getD_cons, ih]

/-- The label stays. -/
theorem Members.getD_mapTexts_label (f : String → String) (data : Members) :
    getD (mapTexts f data) "label" = getD data "label" := by
  induction data with
  | nil => rfl
  | cons m rest ih =>
    rw [mapTexts, List.map_cons, getD_cons, getD_cons]
    by_cases same : m.1 = "label"
    · simp [same]
    · simp only [same, if_false]
      exact ih

end WorkflowRepair
