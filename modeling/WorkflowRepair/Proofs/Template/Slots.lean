import WorkflowRepair.Proofs.Template.Name
import WorkflowRepair.Proofs.Template.Replace

/-!
The slots of a text: the first one there is, then the first behind it, and so on. A slot is cut out
of a text where it begins first, so the slots and what stands between them are told by the text.
Replacement leaves what stands between the slots, and its text has the slots of the old one in their
places, some with other bodies. So the references of the new text are the old ones, those that were
replaced as their replacements are read.
-/

namespace WorkflowRepair.Template

/-- A slot with the body stands at the front of the characters. -/
def SlotAt (body cs : List Char) : Prop := IsBody body ∧ opening ++ body ++ closing <+: cs

/-- The body of a slot, and what stands between the slot before and this one. -/
structure Slot where
  before : List Char
  body : List Char
deriving DecidableEq, Repr

/-- The slots of a text, from the first one on, and what stands behind the last. -/
inductive Slotted : List Char → List Slot → List Char → Prop
  | nothing {cs : List Char} (absent : ∀ part, part <:+ cs → ∀ body, ¬SlotAt body part) :
      Slotted cs [] cs
  | slot {before body rest tail : List Char} {slots : List Slot} (proper : IsBody body)
      (first : ∀ part, part <:+ before → part ≠ [] →
        ∀ other, ¬SlotAt other (part ++ (opening ++ body ++ closing ++ rest)))
      (later : Slotted rest slots tail) :
      Slotted (before ++ (opening ++ body ++ closing ++ rest)) (⟨before, body⟩ :: slots) tail

/-! ### Every text has its slots -/

theorem slot?_eq_none_iff_absent {cs : List Char} :
    slot? cs = none ↔ ∀ body, ¬SlotAt body cs := by
  constructor
  · rintro none body ⟨proper, rest, rfl⟩
    rw [slot?_slot proper rest] at none
    cases none
  · intro absent
    cases found : slot? cs with
    | none => rfl
    | some body =>
      have whole := eq_of_slot? found
      exact absurd ⟨isBody_of_slot? found, _, whole.symm⟩ (absent body)

theorem not_slotAt_nil (body : List Char) : ¬SlotAt body [] := by
  rintro ⟨-, front⟩
  simp [opening] at front

/-- Slots and what stands behind them, with one more character in front. -/
def precede (c : Char) : List Slot × List Char → List Slot × List Char
  | ([], tail) => ([], c :: tail)
  | (slot :: slots, tail) => ({ slot with before := c :: slot.before } :: slots, tail)

/-- The slots among pieces, and the characters behind the last. -/
def slotsOf : List Piece → List Slot × List Char
  | [] => ([], [])
  | .slot body :: rest => (⟨[], body⟩ :: (slotsOf rest).1, (slotsOf rest).2)
  | .char c :: rest => precede c (slotsOf rest)

theorem Slotted.precede {c : Char} {cs : List Char} {parts : List Slot × List Char}
    (h : Slotted cs parts.1 parts.2) (none : ∀ body, ¬SlotAt body (c :: cs)) :
    Slotted (c :: cs) (precede c parts).1 (precede c parts).2 := by
  obtain ⟨slots, tail⟩ := parts
  cases h with
  | nothing absent =>
    refine .nothing fun part inside => ?_
    rcases List.suffix_cons_iff.1 inside with rfl | later
    · exact none
    · exact absent part later
  | slot proper first later =>
    refine @Slotted.slot (c :: _) _ _ _ _ proper (fun part inside some => ?_) later
    rcases List.suffix_cons_iff.1 inside with rfl | inside
    · exact none
    · exact first part inside some

/-- The pieces of a text tell its slots. -/
theorem slotted_pieces (cs : List Char) :
    Slotted cs (slotsOf (pieces cs)).1 (slotsOf (pieces cs)).2 := by
  fun_induction pieces cs with
  | case1 =>
    refine .nothing fun part inside body => ?_
    rw [List.suffix_nil.1 inside]
    exact not_slotAt_nil body
  | case2 c rest body found ih =>
    rw [eq_of_slot? found]
    exact @Slotted.slot [] _ _ _ _ (isBody_of_slot? found)
      (fun part inside some => absurd (List.suffix_nil.1 inside) some) ih
  | case3 c rest found ih => exact ih.precede (slot?_eq_none_iff_absent.1 found)

theorem slotsOf_pieces_of_absent {cs : List Char}
    (absent : ∀ part, part <:+ cs → ∀ body, ¬SlotAt body part) :
    slotsOf (pieces cs) = ([], cs) := by
  induction cs with
  | nil => rw [pieces, slotsOf]
  | cons c rest ih =>
    have none := slot?_eq_none_iff_absent.2 (absent (c :: rest) List.suffix_rfl)
    rw [pieces_char none, slotsOf,
      ih fun part inside => absent part (inside.trans (List.suffix_cons c rest))]
    rfl

/-- What stands before a slot is what precedes it. -/
theorem slotsOf_pieces_of_first {before body rest : List Char} (proper : IsBody body)
    (first : ∀ part, part <:+ before → part ≠ [] →
      ∀ other, ¬SlotAt other (part ++ (opening ++ body ++ closing ++ rest))) :
    slotsOf (pieces (before ++ (opening ++ body ++ closing ++ rest))) =
      (⟨before, body⟩ :: (slotsOf (pieces rest)).1, (slotsOf (pieces rest)).2) := by
  induction before with
  | nil => rw [List.nil_append, pieces_slot proper, slotsOf]
  | cons c before ih =>
    have none := slot?_eq_none_iff_absent.2
      (first (c :: before) List.suffix_rfl (List.cons_ne_nil c before))
    rw [List.cons_append] at none ⊢
    rw [pieces_char none, slotsOf,
      ih fun part inside => first part (inside.trans (List.suffix_cons c before))]
    rfl

/-- A text has just the slots that its pieces tell. -/
theorem slotted_iff {cs tail : List Char} {slots : List Slot} :
    Slotted cs slots tail ↔ slotsOf (pieces cs) = (slots, tail) := by
  constructor
  · intro h
    induction h with
    | nothing absent => exact slotsOf_pieces_of_absent absent
    | slot proper first later ih => rw [slotsOf_pieces_of_first proper first, ih]
  · intro told
    have h := slotted_pieces cs
    rwa [told] at h

/-! ### References -/

/-- The references in slots, in their order. -/
def referencesIn (slots : List Slot) : List Reference :=
  slots.filterMap fun slot => Reference.ofBody? slot.body

theorem filterMap_reference?_eq (ps : List Piece) :
    ps.filterMap Piece.reference? = referencesIn (slotsOf ps).1 := by
  induction ps with
  | nil => rfl
  | cons p rest ih =>
    cases p with
    | char c =>
      rw [List.filterMap_cons_none rfl, ih, slotsOf]
      obtain ⟨slots, tail⟩ := slotsOf rest
      cases slots <;> rfl
    | slot body =>
      rw [slotsOf, referencesIn, List.filterMap_cons, List.filterMap_cons, ih]
      rfl

theorem Slotted.references_eq {text : String} {slots : List Slot} {tail : List Char}
    (h : Slotted text.toList slots tail) : references text = distinct (referencesIn slots) := by
  rw [references, filterMap_reference?_eq, slotted_iff.1 h]

/-! ### Replacement -/

section Replaced

variable {newName : Reference → Option String}

/-- What stands in a slot after replacement. -/
def newBody (newName : Reference → Option String) (body : List Char) : List Char :=
  match (Reference.ofBody? body).bind newName with
  | some expression => expression.toList
  | none => body

/-- A slot with its new body, in its place. -/
def Slot.replaced (newName : Reference → Option String) (slot : Slot) : Slot :=
  { slot with body := newBody newName slot.body }

/-- A reference after replacement, read from what was put in where something was. -/
def reread (newName : Reference → Option String) (reference : Reference) : Reference :=
  match newName reference with
  | some expression => .ofExpression (Text.strip expression)
  | none => reference

/-- Nothing that is put in is blank or has a closing brace. -/
def PutsFilled (newName : Reference → Option String) : Prop :=
  ∀ reference expression, newName reference = some expression →
    Text.isBlankText expression = false ∧ '\x7d' ∉ expression.toList

theorem PutsFilled.fits (filled : PutsFilled newName) : Fits newName := by
  intro body reference expression _ _ new
  obtain ⟨some, unclosed⟩ := filled reference expression new
  refine ⟨fun none => ?_, fun c mem => ?_⟩
  · rw [Text.isBlankText, none] at some
    cases some
  · have other : c ≠ '\x7d' := fun same => unclosed (same ▸ mem)
    simpa [isBody] using other

theorem ofBody?_of_filled {expression : String} (filled : Text.isBlankText expression = false) :
    Reference.ofBody? expression.toList = some (.ofExpression (Text.strip expression)) := by
  have some : Text.trim expression.toList ≠ [] := by
    intro none
    rw [← Text.isBlankText_strip, Text.strip, none] at filled
    cases filled
  unfold Reference.ofBody?
  split
  · next none => exact absurd none some
  · rfl

theorem rewritten_slot (body : List Char) :
    (Piece.slot body).rewritten newName = .slot (newBody newName body) := by
  unfold Piece.rewritten newBody
  rw [Piece.reference?]
  cases (Reference.ofBody? body).bind newName <;> rfl

theorem slotsOf_rewritten (ps : List Piece) :
    slotsOf (ps.map (Piece.rewritten newName)) =
      ((slotsOf ps).1.map (Slot.replaced newName), (slotsOf ps).2) := by
  induction ps with
  | nil => rfl
  | cons p rest ih =>
    rw [List.map_cons]
    cases p with
    | char c =>
      have stays : (Piece.char c).rewritten newName = .char c := rfl
      rw [stays, slotsOf, slotsOf, ih]
      obtain ⟨slots, tail⟩ := slotsOf rest
      cases slots <;> rfl
    | slot body =>
      rw [rewritten_slot, slotsOf, slotsOf, ih]
      rfl

/-- The new text has the old slots with their new bodies, and the same between and behind them. -/
theorem Slotted.replace (fits : Fits newName) {text : String} {slots : List Slot}
    {tail : List Char} (h : Slotted text.toList slots tail) :
    Slotted (replace newName text).toList (slots.map (Slot.replaced newName)) tail := by
  rw [slotted_iff, pieces_replace fits, slotsOf_rewritten, slotted_iff.1 h]

theorem ofBody?_newBody (filled : PutsFilled newName) (body : List Char) :
    Reference.ofBody? (newBody newName body) =
      (Reference.ofBody? body).map (reread newName) := by
  unfold newBody
  cases read : Reference.ofBody? body with
  | none => exact read
  | some reference =>
    rw [Option.bind_some, Option.map_some, reread]
    cases new : newName reference with
    | none => exact read
    | some expression => exact ofBody?_of_filled (filled reference expression new).1

theorem referencesIn_replaced (filled : PutsFilled newName) (slots : List Slot) :
    referencesIn (slots.map (Slot.replaced newName)) =
      (referencesIn slots).map (reread newName) := by
  rw [referencesIn, referencesIn, List.filterMap_map, List.map_filterMap]
  exact List.filterMap_congr fun slot _ => ofBody?_newBody filled slot.body

theorem replace_eq_self_of_referencesIn {text : String} {slots : List Slot} {tail : List Char}
    (h : Slotted text.toList slots tail)
    (unnamed : ∀ reference ∈ referencesIn slots, newName reference = none) :
    replace newName text = text := by
  refine replace_eq_self fun piece mem => Option.bind_eq_none_iff.2 fun reference read => ?_
  refine unnamed reference ?_
  have told := filterMap_reference?_eq (pieces text.toList)
  rw [slotted_iff.1 h] at told
  rw [← told]
  exact List.mem_filterMap.2 ⟨piece, mem, read⟩

/-- A text has one row of slots. When nothing that is put in is blank or has a closing brace, the
new text has the same row with the new bodies and the same between and behind the slots, and its
references are those of the old row, each read from what was put in for it; that an expression is
listed once comes after that. When nothing is put in the text stays as it is. -/
theorem slots_after_replacement (newName : Reference → Option String)
    (filled : PutsFilled newName) (text : String) :
    ∃ slots tail,
      (∀ slots' tail', Slotted text.toList slots' tail' ↔ slots' = slots ∧ tail' = tail) ∧
      references text = distinct (referencesIn slots) ∧
      Slotted (replace newName text).toList (slots.map (Slot.replaced newName)) tail ∧
      references (replace newName text) =
        distinct ((referencesIn slots).map (reread newName)) ∧
      ((∀ reference ∈ referencesIn slots, newName reference = none) →
        replace newName text = text) := by
  have found := slotted_pieces text.toList
  generalize told : slotsOf (pieces text.toList) = parts at found
  obtain ⟨slots, tail⟩ := parts
  have kept := found.replace filled.fits
  refine ⟨slots, tail, fun slots' tail' => ?_, found.references_eq, kept, ?_,
    replace_eq_self_of_referencesIn found⟩
  · rw [slotted_iff, told, Prod.mk.injEq, eq_comm, @eq_comm _ tail]
  · rw [kept.references_eq, referencesIn_replaced filled]

/-- Puts one reference, with a blank in front, in for another one. -/
def merging (reference : Reference) : Option String :=
  if reference.expression = "a.x" then some " b.x" else none

/-- Slots next to single braces, one of them blank, and an opening without end. -/
def crowded (first : String) : String :=
  "\x7b " ++ braced first ++ "\x7d " ++ braced " " ++ braced "b.x" ++ " \x7b\x7b"

theorem slots_after_replacement_merging :
    PutsFilled merging ∧ replace merging (crowded "a.x") = crowded " b.x" ∧
      ∃ slots tail, slots.length = 3 ∧ Slotted (crowded "a.x").toList slots tail ∧
        Slotted (crowded " b.x").toList (slots.map (Slot.replaced merging)) tail ∧
        distinct ((referencesIn slots).map (reread merging)) = [⟨"b.x", "b", ".x"⟩] := by
  have filled : PutsFilled merging := by
    intro reference expression new
    unfold merging at new
    split at new
    · cases new
      decide
    · cases new
  have changed : replace merging (crowded "a.x") = crowded " b.x" := by decide +kernel
  obtain ⟨slots, tail, told, -, kept, found, -⟩ :=
    slots_after_replacement merging filled (crowded "a.x")
  have slotted := (told slots tail).2 ⟨rfl, rfl⟩
  refine ⟨filled, changed, slots, tail, ?_, slotted, changed ▸ kept, ?_⟩
  · have three : (slotsOf (pieces (crowded "a.x").toList)).1.length = 3 := by decide +kernel
    rwa [slotted_iff.1 slotted] at three
  · rw [← found, changed]
    decide +kernel

end Replaced

end WorkflowRepair.Template
