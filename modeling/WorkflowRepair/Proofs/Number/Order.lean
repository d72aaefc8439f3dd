import Mathlib.Algebra.Order.Field.Power
import Mathlib.Data.Rat.Cast.Order
import WorkflowRepair.Number

/-!
The order of numbers is that of the rational numbers they stand for: over a common exponent the
mantissas compare as the numbers do. Any two values but `NaN` compare, infinite ones too.
-/

namespace WorkflowRepair.Number

/-- The rational number that a number stands for; what is not finite stands for none. -/
def value? : Number → Option ℚ
  | .int n => some n
  | .double (.finite negative m e) => some ((if negative then -(m : ℚ) else m) * 2 ^ e)
  | .double .nan | .double (.infinite _) => none

variable {m e n f : Int} {a b : Number} {p q : ℚ}

theorem extended_of_value? (h : a.value? = some p) :
    ∃ m e, a.extended = .dyadic m e ∧ p = (m : ℚ) * 2 ^ e := by
  cases a with
  | int n =>
    refine ⟨n, 0, rfl, ?_⟩
    rw [← Option.some.inj h, zpow_zero, mul_one]
  | double d =>
    cases d with
    | nan => cases h
    | infinite => cases h
    | finite negative m e =>
      refine ⟨_, e, rfl, ?_⟩
      rw [← Option.some.inj h]
      cases negative <;> simp

/-- A mantissa over a smaller exponent. -/
theorem shifted (m : Int) {e base : Int} (below : base ≤ e) :
    ((m * (Nat.pow 2 (e - base).toNat : Nat) : Int) : ℚ) * 2 ^ base = m * 2 ^ e := by
  have gap : ((e - base).toNat : Int) = e - base := Int.toNat_of_nonneg (by omega)
  have power : ((Nat.pow 2 (e - base).toNat : Nat) : ℚ) = 2 ^ (e - base) := by
    rw [Nat.pow_eq, Nat.cast_pow, Nat.cast_ofNat, ← zpow_natCast, gap]
  rw [Int.cast_mul, Int.cast_natCast, power, mul_assoc, ← zpow_add₀ two_ne_zero, sub_add_cancel]

/-- The common exponent, with which the aligned mantissas make the two numbers. -/
theorem aligned_spec (m e n f : Int) : ∃ base : Int,
    ((aligned m e n f).1 : ℚ) * 2 ^ base = m * 2 ^ e ∧
      ((aligned m e n f).2 : ℚ) * 2 ^ base = n * 2 ^ f := by
  by_cases h : e ≤ f
  · simp only [aligned, if_pos h]
    exact ⟨e, shifted m (Int.le_refl e), shifted n h⟩
  · have below : f ≤ e := by omega
    simp only [aligned, if_neg h]
    exact ⟨f, shifted m below, shifted n (Int.le_refl f)⟩

theorem lt_iff (ha : a.value? = some p) (hb : b.value? = some q) : a.lt b = true ↔ p < q := by
  obtain ⟨m, e, left, rfl⟩ := extended_of_value? ha
  obtain ⟨n, f, right, rfl⟩ := extended_of_value? hb
  obtain ⟨base, hm, hn⟩ := aligned_spec m e n f
  have positive : (0 : ℚ) < 2 ^ base := zpow_pos two_pos base
  rw [lt, left, right, ← hm, ← hn, mul_lt_mul_iff_of_pos_right positive, Int.cast_lt]
  simp [Extended.lt]

theorem same_iff (ha : a.value? = some p) (hb : b.value? = some q) : a.same b = true ↔ p = q := by
  obtain ⟨m, e, left, rfl⟩ := extended_of_value? ha
  obtain ⟨n, f, right, rfl⟩ := extended_of_value? hb
  obtain ⟨base, hm, hn⟩ := aligned_spec m e n f
  have nonzero : (2 : ℚ) ^ base ≠ 0 := (zpow_pos two_pos base).ne'
  rw [same, left, right, ← hm, ← hn, mul_left_inj' nonzero, Int.cast_inj]
  simp [Extended.same]

theorem le_iff (ha : a.value? = some p) (hb : b.value? = some q) : a.le b = true ↔ p ≤ q := by
  rw [le, Bool.or_eq_true, lt_iff ha hb, same_iff ha hb, le_iff_lt_or_eq]

/-- What is not finite is not between two numbers. -/
theorem not_between_of_value?_none {low high : Int} (h : a.value? = none) :
    ((Number.int low).le a && a.le (.int high)) = false := by
  cases a with
  | int n => cases h
  | double d =>
    cases d with
    | finite => cases h
    | nan => rfl
    | infinite negative => cases negative <;> rfl

theorem between_iff {low high : Int} : ((Number.int low).le a && a.le (.int high)) = true ↔
    ∃ q, a.value? = some q ∧ low ≤ q ∧ q ≤ high := by
  cases h : a.value? with
  | none => simp [not_between_of_value?_none h]
  | some q =>
    rw [Bool.and_eq_true, le_iff rfl h, le_iff h rfl]
    simp

/-! ### Any two values -/

theorem aligned_swap (m e n f : Int) : aligned n f m e = (aligned m e n f).swap := by
  unfold aligned
  rcases Int.lt_trichotomy e f with less | rfl | more
  · rw [if_neg (by omega), if_pos (by omega)]
    rfl
  · rfl
  · rw [if_pos (by omega), if_neg (by omega)]
    rfl

theorem Extended.same_comm (a b : Extended) : b.same a = a.same b := by
  cases a with
  | undefined => cases b <;> rfl
  | below => cases b <;> rfl
  | above => cases b <;> rfl
  | dyadic m e =>
    cases b with
    | undefined => rfl
    | below => rfl
    | above => rfl
    | dyadic n f =>
      simp only [Extended.same, aligned_swap m e n f, Prod.fst_swap, Prod.snd_swap]
      exact decide_eq_decide.2 eq_comm

/-- Of two values that are defined and differ just one is below the other. -/
theorem Extended.lt_swap {a b : Extended} (ha : a ≠ .undefined) (hb : b ≠ .undefined)
    (apart : a.same b = false) : b.lt a = !a.lt b := by
  cases a with
  | undefined => exact absurd rfl ha
  | below =>
    cases b with
    | undefined => exact absurd rfl hb
    | below => cases apart
    | above => rfl
    | dyadic => rfl
  | above =>
    cases b with
    | undefined => exact absurd rfl hb
    | below => rfl
    | above => cases apart
    | dyadic => rfl
  | dyadic m e =>
    cases b with
    | undefined => exact absurd rfl hb
    | below => rfl
    | above => rfl
    | dyadic n f =>
      simp only [Extended.same, decide_eq_false_iff_not] at apart
      simp only [Extended.lt, aligned_swap m e n f, Prod.fst_swap, Prod.snd_swap, ← decide_not]
      exact decide_eq_decide.2 (by omega)

theorem extended_eq_undefined_iff : a.extended = .undefined ↔ a = .double .nan := by
  cases a with
  | int n => simp [extended]
  | double d =>
    cases d with
    | nan => simp [extended]
    | infinite negative => cases negative <;> simp [extended]
    | finite negative m e => simp [extended]

end WorkflowRepair.Number
