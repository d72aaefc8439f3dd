import WorkflowRepair.TagStream

/-!
The scan of a tag stream case by case, and what it keeps outside of tags. A vocabulary is plain when
no name in it has an opening bracket; then the only bracket of a marker is its first character, so
a marker that is under way is never cut short by one that begins later.
-/

namespace WorkflowRepair.TagStream

/-- The outcome of a scan with some events told before it. -/
def precede (events : List TagEvent) (outcome : List TagEvent × TagState) :
    List TagEvent × TagState :=
  (events ++ outcome.1, outcome.2)

section Equations

variable {markers : List (List Char)} {buffer tail rest before : List Char} {name : String}

theorem scan_outside_idle (h : fromMarker? markers buffer = none) :
    scan markers none buffer = ([], ⟨partialMarker markers buffer, none⟩) := by
  rw [scan]
  split
  · rfl
  · next hm => rw [h] at hm; cases hm

theorem scan_outside_waiting (h : fromMarker? markers buffer = some tail)
    (open_ : tail.dropWhile beforeEnd = []) :
    scan markers none buffer = ([], ⟨buffer, none⟩) := by
  rw [scan]
  split
  · next hm => rw [h] at hm; cases hm
  · next t hm =>
    obtain rfl : tail = t := Option.some.inj (h.symm.trans hm)
    split
    · rfl
    · next ht => rw [open_] at ht; cases ht

/-- What is made of a whole tag: a tag without a name is passed over. -/
def afterTag (markers : List (List Char)) (tail rest : List Char) : List TagEvent × TagState :=
  match tagName? ((tail.takeWhile beforeEnd).drop 1) with
  | none => scan markers none rest
  | some name =>
    precede [.opened name (attributes ((tail.takeWhile beforeEnd).drop 1))]
      (scan markers (some name) rest)

theorem scan_outside_tag {c : Char} (h : fromMarker? markers buffer = some tail)
    (whole : tail.dropWhile beforeEnd = c :: rest) :
    scan markers none buffer = afterTag markers tail rest := by
  rw [scan]
  split
  · next hm => rw [h] at hm; cases hm
  · next t hm =>
    obtain rfl : tail = t := Option.some.inj (h.symm.trans hm)
    split
    · next ht => rw [whole] at ht; cases ht
    · next d r ht =>
      rw [whole] at ht
      cases ht
      dsimp only [afterTag]
      cases tagName? ((tail.takeWhile beforeEnd).drop 1) <;> rfl

theorem scan_inside_closed
    (h : Text.splitFirst? (closeTag name) buffer = some (before, rest)) :
    scan markers (some name) buffer =
      precede (contentOf before ++ [.closed name]) (scan markers none rest) := by
  conv => lhs; rw [scan]
  split
  · next b r hs =>
    rw [h] at hs
    cases hs
    simp [precede]
  · next hs => rw [h] at hs; cases hs

theorem scan_inside_open (h : Text.splitFirst? (closeTag name) buffer = none) :
    scan markers (some name) buffer =
      (contentOf (buffer.take (buffer.length - (closeTag name).length)),
        ⟨buffer.drop (buffer.length - (closeTag name).length), some name⟩) := by
  rw [scan]
  split
  · next hs => rw [h] at hs; cases hs
  · rfl

end Equations

/-- No name of the vocabulary has an opening bracket. -/
def Plain (vocabulary : List String) : Prop := ∀ name ∈ vocabulary, '<' ∉ name.toList

instance (vocabulary : List String) : Decidable (Plain vocabulary) :=
  inferInstanceAs (Decidable (∀ name ∈ vocabulary, '<' ∉ name.toList))

/-- Every marker has an opening bracket at its front and nowhere else. -/
def SingleBracket (markers : List (List Char)) : Prop :=
  ∀ m ∈ markers, ∃ name, m = '<' :: name ∧ '<' ∉ name

theorem Plain.singleBracket {vocabulary : List String} (h : Plain vocabulary) :
    SingleBracket (vocabulary.map marker) := by
  intro m hm
  obtain ⟨name, hname, rfl⟩ := List.mem_map.1 hm
  exact ⟨name.toList, rfl, h name hname⟩

section Markers

variable {markers : List (List Char)}

/-- What is left from the first marker on begins with a marker. -/
theorem marker_of_fromMarker? {cs tail : List Char} (h : fromMarker? markers cs = some tail) :
    ∃ m ∈ markers, m <+: tail := by
  induction cs with
  | nil => simp [fromMarker?] at h
  | cons c rest ih =>
    simp only [fromMarker?] at h
    split at h
    · next found =>
      cases h
      simpa [List.any_eq_true] using found
    · exact ih h

theorem suffix_of_fromMarker? {cs tail : List Char} (h : fromMarker? markers cs = some tail) :
    tail <:+ cs := by
  induction cs with
  | nil => simp [fromMarker?] at h
  | cons c rest ih =>
    simp only [fromMarker?] at h
    split at h
    · cases h; exact List.suffix_rfl
    · exact (ih h).trans (List.suffix_cons c rest)

/-- The part from the first marker on is its own part from the first marker on. -/
theorem fromMarker?_idem {cs tail : List Char} (h : fromMarker? markers cs = some tail) :
    fromMarker? markers tail = some tail := by
  induction cs with
  | nil => simp [fromMarker?] at h
  | cons c rest ih =>
    simp only [fromMarker?] at h
    split at h
    · next found =>
      cases h
      simp [fromMarker?, found]
    · exact ih h

theorem fromMarker?_cons_of_marker {m : List Char} {c : Char} {cs : List Char} (hm : m ∈ markers)
    (pre : m <+: c :: cs) : fromMarker? markers (c :: cs) = some (c :: cs) := by
  have found : markers.any (·.isPrefixOf (c :: cs)) = true :=
    List.any_eq_true.2 ⟨m, hm, List.isPrefixOf_iff_prefix.2 pre⟩
  rw [fromMarker?, found]
  rfl

theorem fromMarker?_cons_of_none {c : Char} {cs : List Char}
    (h : ∀ m ∈ markers, ¬m <+: c :: cs) :
    fromMarker? markers (c :: cs) = fromMarker? markers cs := by
  have none : markers.any (·.isPrefixOf (c :: cs)) = false := by
    simpa only [List.any_eq_false, List.isPrefixOf_iff_prefix] using h
  rw [fromMarker?, none]
  rfl

theorem not_marker_of_fromMarker?_cons {c : Char} {cs : List Char}
    (h : fromMarker? markers (c :: cs) = none) :
    (∀ m ∈ markers, ¬m <+: c :: cs) ∧ fromMarker? markers cs = none := by
  simp only [fromMarker?] at h
  split at h
  · cases h
  · next found =>
    refine ⟨fun m hm pre => found ?_, h⟩
    exact List.any_eq_true.2 ⟨m, hm, List.isPrefixOf_iff_prefix.2 pre⟩

/-- Whether the characters are the beginning of a marker without being one. -/
def isPartial (markers : List (List Char)) (cs : List Char) : Bool :=
  markers.any fun m => cs.isPrefixOf m && cs.length < m.length

theorem isPartial_iff {cs : List Char} :
    isPartial markers cs = true ↔ ∃ m ∈ markers, cs <+: m ∧ cs.length < m.length := by
  simp [isPartial, List.any_eq_true]

theorem partialMarker_cons (c : Char) (cs : List Char) :
    partialMarker markers (c :: cs) =
      if isPartial markers (c :: cs) then c :: cs else partialMarker markers cs := rfl

theorem isPartial_of_append {cs : List Char} (more : List Char)
    (h : isPartial markers (cs ++ more) = true) : isPartial markers cs = true := by
  obtain ⟨m, hm, pre, short⟩ := isPartial_iff.1 h
  refine isPartial_iff.2 ⟨m, hm, (List.prefix_append cs more).trans pre, ?_⟩
  rw [List.length_append] at short
  omega

/-- A marker that begins a text that goes on is there already or is under way. -/
theorem prefix_or_isPartial {m more : List Char} (cs : List Char) (hm : m ∈ markers)
    (pre : m <+: cs ++ more) : m <+: cs ∨ isPartial markers cs = true := by
  rcases Nat.lt_or_ge cs.length m.length with short | long
  · exact .inr (isPartial_iff.2
      ⟨m, hm, List.prefix_of_prefix_length_le (List.prefix_append cs more) pre (Nat.le_of_lt short),
        short⟩)
  · exact .inl (List.prefix_of_prefix_length_le pre (List.prefix_append cs more) long)

/-- The ending that may become a marker is all that more text has to be added to. -/
theorem partialMarker_append (cs more : List Char) :
    partialMarker markers (partialMarker markers cs ++ more) =
      partialMarker markers (cs ++ more) := by
  induction cs with
  | nil => rfl
  | cons c rest ih =>
    rw [partialMarker_cons]
    split
    · rfl
    · next idle =>
      rw [ih, List.cons_append, partialMarker_cons, if_neg]
      exact fun h => idle (isPartial_of_append more h)

theorem fromMarker?_append_of_none {cs : List Char} (more : List Char)
    (h : fromMarker? markers cs = none) :
    fromMarker? markers (partialMarker markers cs ++ more) = fromMarker? markers (cs ++ more) := by
  induction cs with
  | nil => rfl
  | cons c rest ih =>
    obtain ⟨absent, later⟩ := not_marker_of_fromMarker?_cons h
    rw [partialMarker_cons]
    split
    · rfl
    · next idle =>
      rw [ih later, List.cons_append, fromMarker?_cons_of_none]
      intro m hm pre
      rcases prefix_or_isPartial (c :: rest) hm pre with here | underWay
      · exact absent m hm here
      · exact idle underWay

theorem bracket_mem_of_fromMarker? {cs tail : List Char} (single : SingleBracket markers)
    (h : fromMarker? markers cs = some tail) : '<' ∈ tail := by
  obtain ⟨m, hm, pre⟩ := marker_of_fromMarker? h
  obtain ⟨name, rfl, -⟩ := single m hm
  exact pre.subset List.mem_cons_self

/-- The first marker stays the first when more text follows: one under way before it would have the
bracket of the first in its name. -/
theorem fromMarker?_append {cs tail : List Char} (single : SingleBracket markers)
    (more : List Char) (h : fromMarker? markers cs = some tail) :
    fromMarker? markers (cs ++ more) = some (tail ++ more) := by
  induction cs with
  | nil => simp [fromMarker?] at h
  | cons c rest ih =>
    by_cases found : ∃ m ∈ markers, m <+: c :: rest
    · obtain ⟨m, hm, pre⟩ := found
      rw [fromMarker?_cons_of_marker hm pre] at h
      cases h
      exact fromMarker?_cons_of_marker hm (pre.trans (List.prefix_append _ _))
    · rw [fromMarker?_cons_of_none (by simpa using found)] at h
      rw [List.cons_append, fromMarker?_cons_of_none, ih h]
      intro m hm pre
      rcases prefix_or_isPartial (c :: rest) hm pre with here | underWay
      · exact found ⟨m, hm, here⟩
      · obtain ⟨long, hlong, begins, -⟩ := isPartial_iff.1 underWay
        obtain ⟨name, rfl, plain⟩ := single long hlong
        obtain ⟨-, inName⟩ := List.cons_prefix_cons.1 begins
        have bracket := bracket_mem_of_fromMarker? single h
        exact plain (inName.subset ((suffix_of_fromMarker? h).subset bracket))

end Markers

end WorkflowRepair.TagStream
