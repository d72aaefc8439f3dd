import WorkflowRepair.Text.Search

/-!
The first occurrence of a pattern: where it is, and what becomes of it when more text follows. It
stays where it is, and a text without an occurrence gets one only across or behind its end.
-/

namespace WorkflowRepair.Text

theorem after?_eq_none_iff {pattern cs : List Char} :
    after? pattern cs = none ↔ ¬pattern <+: cs := by
  induction pattern generalizing cs with
  | nil => simp [after?]
  | cons p ps ih =>
    cases cs with
    | nil => simp [after?]
    | cons c cs =>
      by_cases same : p = c
      · simp [after?, same, ih]
      · simp [after?, same]

/-- A text has no first occurrence of a pattern exactly when the pattern does not stand in it. -/
theorem splitFirst?_eq_none_iff {pattern cs : List Char} :
    splitFirst? pattern cs = none ↔ ¬pattern <:+: cs := by
  induction cs with
  | nil =>
    rw [splitFirst?, Option.map_eq_none_iff, after?_eq_none_iff, List.prefix_nil, List.infix_nil]
  | cons c cs ih =>
    rw [List.infix_cons_iff, not_or, ← ih, ← after?_eq_none_iff]
    cases here : after? pattern (c :: cs) <;> simp [splitFirst?, here]

/-- The second part of a text begins with one of the words, and no word begins before it. -/
structure FirstOf (words : List (List Char)) (before tail : List Char) : Prop where
  begins : ∃ word ∈ words, word <+: tail
  first : ∀ part, part <:+ before → part ≠ [] → ∀ word ∈ words, ¬word <+: part ++ tail

namespace FirstOf

variable {words : List (List Char)} {word before tail : List Char} {c : Char}

theorem nil (mem : word ∈ words) (begins : word <+: tail) : FirstOf words [] tail :=
  ⟨⟨word, mem, begins⟩, fun _ inside some => absurd (List.suffix_nil.1 inside) some⟩

theorem cons (h : FirstOf words before tail)
    (none : ∀ word ∈ words, ¬word <+: c :: (before ++ tail)) :
    FirstOf words (c :: before) tail := by
  refine ⟨h.begins, fun part inside some => ?_⟩
  rcases List.suffix_cons_iff.1 inside with rfl | later
  · exact none
  · exact h.first part later some

theorem of_cons (h : FirstOf words (c :: before) tail) : FirstOf words before tail :=
  ⟨h.begins, fun part inside => h.first part (inside.trans (List.suffix_cons c before))⟩

theorem not_prefix_of_cons (h : FirstOf words (c :: before) tail) :
    ∀ word ∈ words, ¬word <+: c :: (before ++ tail) :=
  h.first (c :: before) List.suffix_rfl (List.cons_ne_nil _ _)

end FirstOf

theorem after?_append_self (pattern rest : List Char) :
    after? pattern (pattern ++ rest) = some rest := by
  induction pattern with
  | nil => rfl
  | cons p ps ih => simp [after?, ih]

theorem splitFirst?_of_after? {pattern cs rest : List Char} (h : after? pattern cs = some rest) :
    splitFirst? pattern cs = some ([], rest) := by
  cases cs <;> simp [splitFirst?, h]

/-- A text is split where the pattern begins first. -/
theorem FirstOf.splitFirst? {pattern before rest : List Char}
    (h : FirstOf [pattern] before (pattern ++ rest)) :
    splitFirst? pattern (before ++ (pattern ++ rest)) = some (before, rest) := by
  induction before with
  | nil => exact splitFirst?_of_after? (after?_append_self pattern rest)
  | cons c before ih =>
    have none := after?_eq_none_iff.2 (h.not_prefix_of_cons pattern (List.mem_singleton_self _))
    simp [Text.splitFirst?, none, ih h.of_cons]

theorem firstOf_of_splitFirst? {pattern cs before rest : List Char}
    (h : splitFirst? pattern cs = some (before, rest)) :
    FirstOf [pattern] before (pattern ++ rest) := by
  induction cs generalizing before with
  | nil =>
    simp only [splitFirst?, Option.map_eq_some_iff] at h
    obtain ⟨tail, _, heq⟩ := h
    cases heq
    exact .nil (List.mem_singleton_self _) (List.prefix_append pattern _)
  | cons c cs ih =>
    cases here : after? pattern (c :: cs) with
    | some tail =>
      rw [splitFirst?_of_after? here] at h
      cases h
      exact .nil (List.mem_singleton_self _) (List.prefix_append pattern _)
    | none =>
      simp only [splitFirst?, here] at h
      obtain ⟨⟨front, later⟩, found, heq⟩ := Option.map_eq_some_iff.1 h
      cases heq
      have parts : cs = front ++ (pattern ++ later) := by
        simpa using splitFirst?_eq_some found
      refine (ih found).cons fun word mem => ?_
      rw [List.mem_singleton.1 mem, ← parts]
      exact after?_eq_none_iff.1 here

/-- A text at least as long as the pattern decides on its own whether it begins with it. -/
theorem after?_append {pattern cs : List Char} (more : List Char)
    (long : pattern.length ≤ cs.length) :
    after? pattern (cs ++ more) = (after? pattern cs).map (· ++ more) := by
  induction pattern generalizing cs with
  | nil => simp [after?]
  | cons p ps ih =>
    cases cs with
    | nil => simp at long
    | cons c cs =>
      simp only [List.cons_append, after?]
      split
      · exact ih (by simpa using long)
      · rfl

theorem length_le_of_splitFirst? {pattern cs before rest : List Char}
    (h : splitFirst? pattern cs = some (before, rest)) : pattern.length ≤ cs.length := by
  rw [splitFirst?_eq_some h]
  simp only [List.length_append]
  omega

/-- The first occurrence stays the first when more text follows. -/
theorem splitFirst?_append {pattern cs before rest : List Char} (more : List Char)
    (h : splitFirst? pattern cs = some (before, rest)) :
    splitFirst? pattern (cs ++ more) = some (before, rest ++ more) := by
  have long := length_le_of_splitFirst? h
  induction cs generalizing before with
  | nil =>
    obtain rfl : pattern = [] := by simpa using long
    cases h
    cases more <;> simp [splitFirst?, after?]
  | cons c cs ih =>
    simp only [splitFirst?] at h
    have front := after?_append more long
    rw [List.cons_append] at front
    simp only [List.cons_append, splitFirst?, front]
    cases hc : after? pattern (c :: cs) with
    | some tail =>
      rw [hc] at h
      cases h
      rfl
    | none =>
      rw [hc] at h
      obtain ⟨⟨b, r⟩, hsplit, heq⟩ := Option.map_eq_some_iff.1 h
      cases heq
      simp [ih hsplit (length_le_of_splitFirst? hsplit)]

/-- The parts of a text before and after an occurrence, with some characters put in front. -/
def shiftSplit (front : List Char) (parts : List Char × List Char) : List Char × List Char :=
  (front ++ parts.1, parts.2)

/-- When a text has no occurrence and its last part is as long as the pattern, more text makes
occurrences begin in that part or behind it only. -/
theorem splitFirst?_append_of_none {pattern front last : List Char} (more : List Char)
    (h : splitFirst? pattern (front ++ last) = none) (long : pattern.length ≤ last.length) :
    splitFirst? pattern (front ++ (last ++ more)) =
      (splitFirst? pattern (last ++ more)).map (shiftSplit front) := by
  induction front with
  | nil => cases h' : splitFirst? pattern (last ++ more) <;> exact h'
  | cons c front ih =>
    simp only [List.cons_append, splitFirst?] at h ⊢
    have fits : pattern.length ≤ (c :: (front ++ last)).length := by
      simp only [List.length_cons, List.length_append]
      omega
    have decided := after?_append more fits
    cases hc : after? pattern (c :: (front ++ last)) with
    | some tail =>
      rw [hc] at h
      cases h
    | none =>
      rw [hc] at h decided
      simp only [List.cons_append, List.append_assoc, Option.map_none] at decided
      rw [decided, ih (Option.map_eq_none_iff.1 h), Option.map_map]
      rfl

end WorkflowRepair.Text
