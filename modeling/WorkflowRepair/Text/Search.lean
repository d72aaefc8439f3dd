/-!
Finding a text in another: the first occurrence splits the text into what stands before and after.
-/

namespace WorkflowRepair.Text

/-- What follows the pattern, when the characters begin with it. -/
def after? : List Char → List Char → Option (List Char)
  | [], cs => some cs
  | _ :: _, [] => none
  | p :: ps, c :: cs => if p = c then after? ps cs else none

/-- The characters before and after the first occurrence of the pattern. -/
def splitFirst? (pattern : List Char) : List Char → Option (List Char × List Char)
  | [] => (after? pattern []).map ([], ·)
  | c :: cs =>
    match after? pattern (c :: cs) with
    | some rest => some ([], rest)
    | none => (splitFirst? pattern cs).map fun (before, rest) => (c :: before, rest)

def occurs (pattern cs : List Char) : Bool := (splitFirst? pattern cs).isSome

/-- The text before the pattern is followed by the pattern. -/
theorem after?_eq_some {pattern cs rest : List Char} (h : after? pattern cs = some rest) :
    cs = pattern ++ rest := by
  induction pattern generalizing cs with
  | nil => simpa [after?] using h
  | cons p ps ih =>
    cases cs with
    | nil => simp [after?] at h
    | cons c cs =>
      by_cases hpc : p = c
      · simp only [after?, hpc, if_true] at h
        simp [hpc, ih h]
      · simp [after?, hpc] at h

/-- A split loses nothing but the pattern. -/
theorem splitFirst?_eq_some {pattern cs before rest : List Char}
    (h : splitFirst? pattern cs = some (before, rest)) : cs = before ++ pattern ++ rest := by
  induction cs generalizing before with
  | nil =>
    simp only [splitFirst?, Option.map_eq_some_iff] at h
    obtain ⟨tail, htail, heq⟩ := h
    cases heq
    simpa using after?_eq_some htail
  | cons c cs ih =>
    simp only [splitFirst?] at h
    split at h
    · next tail htail =>
      cases h
      simpa using after?_eq_some htail
    · obtain ⟨⟨b, r⟩, hsplit, heq⟩ := Option.map_eq_some_iff.1 h
      cases heq
      simp [ih hsplit]

end WorkflowRepair.Text
