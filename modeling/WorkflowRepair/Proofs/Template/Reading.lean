import Mathlib.Data.List.TakeWhile
import WorkflowRepair.Proofs.Template.Replace

/-!
A reference is read back as it was put in. The path of a reference that was read begins with a point
or a bracket and ends with no blank, so an ordinary label in front of it is again its name.
-/

namespace WorkflowRepair

namespace Text

/-- The characters neither begin nor end with a blank. -/
structure Trimmed (cs : List Char) : Prop where
  first : ∀ c, cs.head? = some c → isBlank c = false
  last : ∀ c, cs.getLast? = some c → isBlank c = false

theorem head?_dropWhile {p : Char → Bool} {cs : List Char} {c : Char}
    (h : (cs.dropWhile p).head? = some c) : p c = false := by
  have stops := List.head?_dropWhile_not p cs
  rw [h] at stops
  simpa using stops

theorem dropWhile_of_head? {p : Char → Bool} {cs : List Char}
    (h : ∀ c, cs.head? = some c → p c = false) : cs.dropWhile p = cs := by
  cases cs with
  | nil => rfl
  | cons c rest =>
    have stops : p c = false := h c rfl
    simp [stops]

theorem trimmed_trim (cs : List Char) : Trimmed (trim cs) := by
  have front : trim cs <+: cs.dropWhile isBlank := by
    have behind := List.dropWhile_suffix (l := (cs.dropWhile isBlank).reverse) isBlank
    exact List.reverse_suffix.1 (by simpa [trim] using behind)
  constructor
  · intro c begins
    obtain ⟨rest, whole⟩ := front
    have first : (cs.dropWhile isBlank).head? = some c := by
      rw [← whole, List.head?_append, begins]
      rfl
    exact head?_dropWhile first
  · intro c ends
    rw [trim, List.getLast?_reverse] at ends
    exact head?_dropWhile ends

theorem trim_of_trimmed {cs : List Char} (h : Trimmed cs) : trim cs = cs := by
  have last : ∀ c, cs.reverse.head? = some c → isBlank c = false := by
    intro c ends
    rw [List.head?_reverse] at ends
    exact h.last c ends
  rw [trim, dropWhile_of_head? h.first, dropWhile_of_head? last, List.reverse_reverse]

theorem mem_of_mem_trim {cs : List Char} {c : Char} (h : c ∈ trim cs) : c ∈ cs := by
  rw [trim, List.mem_reverse] at h
  have inside := (List.dropWhile_suffix isBlank).subset h
  exact (List.dropWhile_suffix isBlank).subset (List.mem_reverse.1 inside)

end Text

/-- The label has no blanks at its ends and no sign that would end a name or a slot. -/
structure OrdinaryLabel (label : String) : Prop where
  stripped : Text.strip label = label
  plain : ∀ c ∈ label.toList, c ≠ '.' ∧ c ≠ '[' ∧ c ≠ '\x7d'

/-- A character that may stand anywhere in a label. -/
def OrdinaryLabel.isSolid (c : Char) : Bool :=
  !Text.isBlank c && c != '.' && c != '[' && c != '\x7d'

theorem OrdinaryLabel.isSolid_iff {c : Char} :
    isSolid c = true ↔ Text.isBlank c = false ∧ c ≠ '.' ∧ c ≠ '[' ∧ c ≠ '\x7d' := by
  simp [isSolid, and_assoc]

theorem ordinaryLabel_of_solid {label : String}
    (h : label.toList.all OrdinaryLabel.isSolid = true) : OrdinaryLabel label := by
  have solid : ∀ c ∈ label.toList, Text.isBlank c = false ∧ c ≠ '.' ∧ c ≠ '[' ∧ c ≠ '\x7d' :=
    fun c mem => OrdinaryLabel.isSolid_iff.1 (List.all_eq_true.1 h c mem)
  refine ⟨?_, fun c mem => (solid c mem).2⟩
  have trimmed : Text.Trimmed label.toList :=
    ⟨fun c begins => (solid c (List.mem_of_mem_head? begins)).1,
      fun c ends => (solid c (List.mem_of_getLast? ends)).1⟩
  rw [Text.strip, Text.trim_of_trimmed trimmed, String.ofList_toList]

theorem isSolid_of_isDigit {c : Char} (h : c.isDigit = true) : OrdinaryLabel.isSolid c = true := by
  have bounds : 48 ≤ c.toNat ∧ c.toNat ≤ 57 := by
    simp only [Char.isDigit, Bool.and_eq_true, decide_eq_true_eq, ge_iff_le,
      UInt32.le_iff_toNat_le] at h
    exact h
  have digits : ∀ n < 58, 48 ≤ n → Text.inRanges Text.blankRanges n = false := by decide
  refine OrdinaryLabel.isSolid_iff.2 ⟨digits c.toNat (by omega) bounds.1, ?_, ?_, ?_⟩
  · rintro rfl
    exact absurd bounds.1 (by decide)
  · rintro rfl
    exact absurd bounds.2 (by decide)
  · rintro rfl
    exact absurd bounds.2 (by decide)

namespace Template

/-- The characters of a path behind a name: nothing, or from a point or a bracket on. -/
structure IsPath (path : List Char) : Prop where
  inside : ∀ c ∈ path, isBody c = true
  starts : ∀ c, path.head? = some c → Reference.endsName c = true
  ends : ∀ c, path.getLast? = some c → Text.isBlank c = false

theorem isPath_of_ends {path : List Char} {first last : Char} (inside : path.all isBody = true)
    (head : path.head? = some first) (starts : Reference.endsName first = true)
    (tail : path.getLast? = some last) (ends : Text.isBlank last = false) : IsPath path := by
  refine ⟨fun c mem => List.all_eq_true.1 inside c mem, fun c begins => ?_, fun c stops => ?_⟩
  · rw [head] at begins
    exact Option.some.inj begins ▸ starts
  · rw [tail] at stops
    exact Option.some.inj stops ▸ ends

/-- The path of a reference that was read. -/
theorem isPath_of_ofBody? {body : List Char} {reference : Reference} (h : IsBody body)
    (read : Reference.ofBody? body = some reference) : IsPath reference.path.toList := by
  have trimmed := Text.trimmed_trim body
  have path : reference.path.toList =
      (Text.trim body).dropWhile (!Reference.endsName ·) := by
    unfold Reference.ofBody? at read
    split at read
    · cases read
    · next cs _ =>
      rw [← Option.some.inj read]
      simp [Reference.ofExpression, Reference.split]
  have tail : reference.path.toList <:+ Text.trim body := by
    rw [path]
    exact List.dropWhile_suffix _
  refine ⟨fun c mem => h.2 c (Text.mem_of_mem_trim (tail.subset mem)), fun c begins => ?_,
    fun c ends => ?_⟩
  · rw [path] at begins
    simpa using Text.head?_dropWhile begins
  · obtain ⟨front, whole⟩ := tail
    refine trimmed.last c ?_
    rw [← whole, List.getLast?_append, ends]
    rfl

section Renamed

variable {label path : String} (ordinary : OrdinaryLabel label)
  (filled : Text.isBlankText label = false) (behind : IsPath path.toList)

include ordinary

theorem trimmed_label : Text.Trimmed label.toList := by
  have same : Text.trim label.toList = label.toList := by
    have stripped := congrArg String.toList ordinary.stripped
    simpa [Text.strip] using stripped
  rw [← same]
  exact Text.trimmed_trim _

theorem takeWhile_label (rest : List Char) :
    (label.toList ++ rest).takeWhile (!Reference.endsName ·) =
      label.toList ++ rest.takeWhile (!Reference.endsName ·) := by
  refine List.takeWhile_append_of_pos fun c mem => ?_
  obtain ⟨point, bracket, -⟩ := ordinary.plain c mem
  simp [Reference.endsName, point, bracket]

theorem dropWhile_label (rest : List Char) :
    (label.toList ++ rest).dropWhile (!Reference.endsName ·) =
      rest.dropWhile (!Reference.endsName ·) := by
  refine List.dropWhile_append_of_pos fun c mem => ?_
  obtain ⟨point, bracket, -⟩ := ordinary.plain c mem
  simp [Reference.endsName, point, bracket]

include filled

omit ordinary in
theorem label_ne_nil : label.toList ≠ [] := by
  intro none
  rw [Text.isBlankText, none] at filled
  cases filled

include behind

theorem trimmed_renamed : Text.Trimmed (label ++ path).toList := by
  have label_ends := trimmed_label ordinary
  have nonempty := label_ne_nil filled
  rw [String.toList_append]
  constructor
  · intro c begins
    rw [List.head?_append_of_ne_nil _ nonempty] at begins
    exact label_ends.first c begins
  · intro c ends
    rw [List.getLast?_append] at ends
    cases last : path.toList.getLast? with
    | none =>
      rw [last] at ends
      exact label_ends.last c ends
    | some d =>
      rw [last] at ends
      cases ends
      exact behind.ends c last

/-- A label and a path may stand in a slot. -/
theorem isBody_renamed : IsBody (label ++ path).toList := by
  rw [String.toList_append]
  constructor
  · intro none
    exact label_ne_nil filled (List.append_eq_nil_iff.1 none).1
  · intro c mem
    rcases List.mem_append.1 mem with front | back
    · simpa [isBody] using (ordinary.plain c front).2.2
    · exact behind.inside c back

/-- A label and a path are read back as what they are. -/
theorem ofBody?_renamed :
    Reference.ofBody? (label ++ path).toList = some ⟨label ++ path, label, path⟩ := by
  have whole := Text.trim_of_trimmed (trimmed_renamed ordinary filled behind)
  have nonempty := (isBody_renamed ordinary filled behind).1
  have stops : ∀ c, path.toList.head? = some c → (!Reference.endsName c) = false := by
    intro c begins
    simpa using behind.starts c begins
  have name : (label ++ path).toList.takeWhile (!Reference.endsName ·) = label.toList := by
    rw [String.toList_append, takeWhile_label ordinary]
    cases cs : path.toList with
    | nil => simp
    | cons c rest => simp [stops c (by rw [cs]; rfl)]
  have rest : (label ++ path).toList.dropWhile (!Reference.endsName ·) = path.toList := by
    rw [String.toList_append, dropWhile_label ordinary, Text.dropWhile_of_head? stops]
  have read : Reference.ofBody? (label ++ path).toList =
      some (Reference.ofExpression (label ++ path)) := by
    unfold Reference.ofBody?
    rw [whole]
    split
    · next none => exact absurd none nonempty
    · next cs _ => rw [String.ofList_toList]
  rw [read, Reference.ofExpression, Reference.split]
  simp only [name, rest, Text.trim_of_trimmed (trimmed_label ordinary), String.ofList_toList]

end Renamed

end Template

end WorkflowRepair
