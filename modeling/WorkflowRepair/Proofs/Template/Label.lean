import WorkflowRepair.Template

/-!
A label and its normal form are blank together: no lower-case letter is a blank, and the words of a
text hold every character of it that is not blank.
-/

namespace WorkflowRepair

namespace Text

theorem exists_range_of_inRanges {ranges : List (Nat × Nat)} {n : Nat}
    (h : inRanges ranges n = true) : ∃ r ∈ ranges, r.1 ≤ n ∧ n ≤ r.2 := by
  induction ranges with
  | nil => cases h
  | cons range rest ih =>
    obtain ⟨first, last⟩ := range
    unfold inRanges at h
    split at h
    · cases h
    · rcases (Bool.or_eq_true _ _).mp h with inside | later
      · exact ⟨_, List.mem_cons_self, by omega, of_decide_eq_true inside⟩
      · obtain ⟨r, mem, bounds⟩ := ih later
        exact ⟨r, List.mem_cons_of_mem _ mem, bounds⟩

theorem exists_run_of_lowerShift? {runs : List LowerRun} {n : Nat} {shift : Int}
    (h : lowerShift? runs n = some shift) :
    ∃ run ∈ runs, run.first ≤ n ∧ n ≤ run.last ∧ run.shift = shift := by
  induction runs with
  | nil => cases h
  | cons run rest ih =>
    unfold lowerShift? at h
    split at h
    · cases h
    · split at h
      · split at h
        · exact ⟨run, List.mem_cons_self, by omega, by omega, Option.some.inj h⟩
        · cases h
      · obtain ⟨run', mem, bounds⟩ := ih h
        exact ⟨run', List.mem_cons_of_mem _ mem, bounds⟩

/-- No run of lower-case letters meets a range of blanks. -/
theorem runs_apart : ∀ run ∈ lowerRuns, ∀ r ∈ blankRanges,
    (run.last : Int) + run.shift < r.1 ∨ (r.2 : Int) < run.first + run.shift := by
  decide +kernel

/-- A code point that is none of a character is taken for zero. -/
theorem toNat_ofNat_cases (n : Nat) : (Char.ofNat n).toNat = n ∨ (Char.ofNat n).toNat = 0 := by
  by_cases valid : n.isValidChar
  · have char : Char.ofNat n = Char.ofNatAux n valid := dif_pos valid
    rw [char]
    exact .inl rfl
  · have zero : Char.ofNat n = '\x00' := dif_neg valid
    rw [zero]
    exact .inr rfl

theorem isBlank_shifted {n : Nat} {shift : Int} (h : lowerShift? lowerRuns n = some shift) :
    isBlank (Char.ofNat ((n : Int) + shift).toNat) = false := by
  refine Bool.eq_false_iff.2 fun blank => ?_
  obtain ⟨r, range, low, high⟩ := exists_range_of_inRanges blank
  obtain ⟨run, mem, first, last, rfl⟩ := exists_run_of_lowerShift? h
  have positive : ∀ r ∈ blankRanges, 0 < r.1 := by decide
  have apart := runs_apart run mem r range
  have least := positive r range
  rcases toNat_ofNat_cases ((n : Int) + run.shift).toNat with same | zero
  · omega
  · omega

/-- A character that is not blank leaves one that is not blank. -/
theorem exists_solid_lowerAt {before after : List Char} {c : Char} (h : isBlank c = false) :
    ∃ d ∈ lowerAt before c after, isBlank d = false := by
  unfold lowerAt
  split
  · split
    · exact ⟨'ς', List.mem_singleton_self _, by decide⟩
    · exact ⟨'σ', List.mem_singleton_self _, by decide⟩
  · split
    · exact ⟨'i', List.mem_cons_self, by decide⟩
    · split
      · next shift found => exact ⟨_, List.mem_singleton_self _, isBlank_shifted found⟩
      · exact ⟨c, List.mem_singleton_self _, h⟩

theorem exists_solid_lowerAfter {before cs : List Char} {c : Char} (mem : c ∈ cs)
    (h : isBlank c = false) : ∃ d ∈ lowerAfter before cs, isBlank d = false := by
  induction cs generalizing before with
  | nil => cases mem
  | cons first rest ih =>
    unfold lowerAfter
    rcases List.mem_cons.1 mem with rfl | mem
    · obtain ⟨d, inside, solid⟩ := exists_solid_lowerAt h
      exact ⟨d, List.mem_append_left _ inside, solid⟩
    · obtain ⟨d, inside, solid⟩ := ih mem
      exact ⟨d, List.mem_append_right _ inside, solid⟩

theorem words_eq_nil_of_blank {cs : List Char} (h : cs.all isBlank = true) : words cs = [] := by
  induction cs with
  | nil => rfl
  | cons c rest ih =>
    rw [List.all_cons, Bool.and_eq_true] at h
    unfold words
    rw [if_pos h.1]
    exact ih h.2

/-- The words hold all that is not blank. -/
theorem exists_word {cs : List Char} {c : Char} (mem : c ∈ cs) (h : isBlank c = false) :
    ∃ word ∈ words cs, c ∈ word := by
  induction cs with
  | nil => cases mem
  | cons first rest ih =>
    unfold words
    rcases List.mem_cons.1 mem with rfl | mem
    · rw [if_neg (by simp [h])]
      split
      · split
        · exact ⟨_, List.mem_cons_self, List.mem_cons_self⟩
        · exact ⟨_, List.mem_cons_self, List.mem_cons_self⟩
      · exact ⟨_, List.mem_cons_self, List.mem_cons_self⟩
    · obtain ⟨word, inside, here⟩ := ih mem
      split
      · exact ⟨word, inside, here⟩
      · split
        · next first' tail start more found =>
          rw [found] at inside
          split
          · exact ⟨word, List.mem_cons_of_mem _ inside, here⟩
          · rcases List.mem_cons.1 inside with rfl | inside
            · exact ⟨_, List.mem_cons_self, List.mem_cons_of_mem _ here⟩
            · exact ⟨word, List.mem_cons_of_mem _ inside, here⟩
        · exact ⟨word, List.mem_cons_of_mem _ inside, here⟩

theorem mem_intersperse {α : Type} {sep a : α} {items : List α} (mem : a ∈ items) :
    a ∈ items.intersperse sep := by
  fun_induction List.intersperse sep items with
  | case1 => exact mem
  | case2 => exact mem
  | case3 first rest _ ih =>
    rcases List.mem_cons.1 mem with rfl | mem
    · exact List.mem_cons_self
    · exact List.mem_cons_of_mem _ (List.mem_cons_of_mem _ (ih mem))

end Text

/-- A label and its normal form are blank together. -/
theorem Template.isBlankText_normalLabel (label : String) :
    Text.isBlankText (normalLabel label) = Text.isBlankText label := by
  unfold Text.isBlankText normalLabel Text.lower
  rw [String.toList_ofList, String.toList_ofList]
  cases blank : label.toList.all Text.isBlank with
  | true =>
    rw [Text.words_eq_nil_of_blank blank]
    rfl
  | false =>
    obtain ⟨c, mem, solid⟩ := List.all_eq_false.1 blank
    have solid : Text.isBlank c = false := by simpa using solid
    obtain ⟨word, inside, here⟩ := Text.exists_word mem solid
    have joined : c ∈ ((Text.words label.toList).intersperse [' ']).flatten :=
      List.mem_flatten.2 ⟨word, Text.mem_intersperse inside, here⟩
    obtain ⟨d, left, solid'⟩ := Text.exists_solid_lowerAfter joined solid
    exact List.all_eq_false.2 ⟨d, left, by simp [solid']⟩

end WorkflowRepair
