import WorkflowRepair.Text.Half

/-!
Codes and the characters that stand for them. A code shares its character with another one only
where the two are a half and its private character, and their order is the other way round only
between a half and the characters up to its private one.
-/

namespace WorkflowRepair.Text

variable {m n k : Nat}

theorem isHalfCode_iff : isHalfCode n = true ↔ 0xD800 ≤ n ∧ n ≤ 0xDFFF := by
  simp only [isHalfCode, Bool.and_eq_true, decide_eq_true_eq]

theorem charOf_of_not_half (h : isHalfCode n = false) : charOf n = Char.ofNat n := by
  rw [charOf, h]
  rfl

/-- The code of the character that stands for a code. -/
theorem toNat_charOf (bound : n ≤ 0x10FFFF) :
    (charOf n).toNat = if isHalfCode n then halfShift + n else n := by
  have valid : (if isHalfCode n then halfShift + n else n).isValidChar := by
    simp only [isHalfCode_iff, halfShift, Nat.isValidChar]
    split <;> omega
  rw [charOf, Char.ofNat, dif_pos valid]
  rfl

/-- Two codes have one character only where they are a half and its private character. -/
theorem charOf_eq_iff (hm : m ≤ 0x10FFFF) (hn : n ≤ 0x10FFFF) : charOf m = charOf n ↔
    m = n ∨ (isHalfCode m = true ∧ n = halfShift + m) ∨
      (isHalfCode n = true ∧ m = halfShift + n) := by
  rw [← Char.toNat_inj, toNat_charOf hm, toNat_charOf hn]
  simp only [isHalfCode_iff, halfShift]
  split <;> split <;> omega

/-- Two codes lose their order only where the first is a half and the second, which is none, does
not come behind its private character. -/
theorem charOf_lt_charOf_iff (less : m < n) (hn : n ≤ 0x10FFFF) : charOf m < charOf n ↔
    ¬(isHalfCode m = true ∧ isHalfCode n = false ∧ n ≤ halfShift + m) := by
  have codes : charOf m < charOf n ↔ (charOf m).toNat < (charOf n).toNat := by
    rw [Char.lt_def, UInt32.lt_iff_toNat_lt]
    rfl
  rw [codes, toNat_charOf (by omega), toNat_charOf hn, ← Bool.not_eq_true]
  simp only [isHalfCode_iff, halfShift]
  split <;> split <;> omega

/-- A character is taken for a half where it stands for it, or is its private character. -/
theorem halfCode?_charOf (bound : n ≤ 0x10FFFF) : halfCode? (charOf n) = some k ↔
    isHalfCode k = true ∧ (n = k ∨ n = halfShift + k) := by
  rw [halfCode?, toNat_charOf bound]
  simp only [Option.ite_none_right_eq_some, Bool.and_eq_true, decide_eq_true_eq, Option.some.injEq,
    isHalfCode_iff, halfShift]
  split <;> omega

end WorkflowRepair.Text
