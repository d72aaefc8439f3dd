import Mathlib.Data.List.Nodup
import Mathlib.Data.String.Basic
import WorkflowRepair.Repair.FreshName

/-!
The search for a name that is not in use. The numbered forms of a base differ, so among one more of
them than there are names one is free, and the search ends with the first.
-/

namespace WorkflowRepair.Repair

/-- The form of a base with a number. -/
def numbered (base separator : String) (k : Nat) : String := base ++ separator ++ toString k

theorem numbered_injective (base separator : String) :
    Function.Injective (numbered base separator) := by
  intro a b same
  have digits : toString a = toString b := (String.append_right_inj _).1 same
  rw [Nat.toString_eq_repr, Nat.toString_eq_repr] at digits
  have read := congrArg (fun s : String => Nat.ofDigitChars 10 s.toList 0) digits
  simpa only [Nat.toList_repr, Nat.ofDigitChars_toDigits (by decide : 1 < 10) (Nat.le_refl 10)]
    using read

/-- A name is the first of a base that is not taken: the base, or else its form with the least
positive number that is free, which is within the limit. -/
inductive FirstFree (taken : String → Prop) (limit : Nat) (base separator : String) :
    String → Prop
  | plain : ¬ taken base → FirstFree taken limit base separator base
  | counted {k : Nat} : taken base → 0 < k → k ≤ limit → ¬ taken (numbered base separator k) →
      (∀ j, 0 < j → j < k → taken (numbered base separator j)) →
      FirstFree taken limit base separator (numbered base separator k)

variable {taken taken' : String → Prop} {limit limit' : Nat} {base separator name : String}

theorem FirstFree.not_taken (h : FirstFree taken limit base separator name) : ¬ taken name := by
  cases h with
  | plain free => exact free
  | counted _ _ _ free _ => exact free

theorem FirstFree.of_iff (h : FirstFree taken limit base separator name)
    (same : ∀ id, taken' id ↔ taken id) (more : limit ≤ limit') :
    FirstFree taken' limit' base separator name := by
  have alike : taken' = taken := funext fun id => propext (same id)
  subst alike
  cases h with
  | plain free => exact .plain free
  | counted known positive low free before =>
    exact .counted known positive (Nat.le_trans low more) free before

/-- A numbered form is free, as there is one more of them than there are names to take them. -/
theorem exists_free (base separator : String) (used : List String) :
    ∃ k < used.length + 1, numbered base separator (k + 1) ∉ used := by
  by_contra none
  have all : ∀ k < used.length + 1, numbered base separator (k + 1) ∈ used := fun k small =>
    Classical.byContradiction fun free => none ⟨k, small, free⟩
  have distinct : ((List.range (used.length + 1)).map fun k =>
      numbered base separator (k + 1)).Nodup :=
    List.nodup_range.map fun a b same => Nat.succ.inj (numbered_injective base separator same)
  have many := distinct.length_le_of_subset fun name mem => by
    obtain ⟨k, small, rfl⟩ := List.mem_map.1 mem
    exact all k (List.mem_range.1 small)
  rw [List.length_map, List.length_range] at many
  omega

/-- A fresh name is the first that is free, and found within as many numbers as there are names, and
one more. -/
theorem firstFree_freshName (base separator : String) (used : List String) :
    FirstFree (· ∈ used) (used.length + 1) base separator (freshName base separator used) := by
  by_cases known : base ∈ used
  · obtain ⟨k, small, free⟩ := exists_free base separator used
    cases found : (List.range (used.length + 1)).find?
        ((fun name => !used.contains name) ∘ fun k => numbered base separator (k + 1)) with
    | none =>
      have taken := List.find?_eq_none.1 found k (List.mem_range.2 small)
      simp [free] at taken
    | some k =>
      have fresh : freshName base separator used = numbered base separator (k + 1) := by
        rw [freshName, if_pos (List.contains_iff_mem.2 known)]
        show (List.find? _ (List.map (fun k => numbered base separator (k + 1)) _)).getD base = _
        rw [List.find?_map, found]
        rfl
      obtain ⟨free, small, before⟩ := List.find?_range_eq_some.1 found
      rw [fresh]
      refine .counted known (Nat.succ_pos k) (List.mem_range.1 small) ?_ fun j positive less => ?_
      · simpa using free
      · obtain ⟨j, rfl⟩ := Nat.exists_eq_succ_of_ne_zero (Nat.ne_of_gt positive)
        simpa using before j (Nat.lt_of_succ_lt_succ less)
  · rw [freshName, if_neg (mt List.contains_iff_mem.1 known)]
    exact .plain known

theorem freshName_cases (base separator : String) (used : List String) :
    freshName base separator used = base ∨
      ∃ k : Nat, freshName base separator used = base ++ separator ++ toString k := by
  have first := firstFree_freshName base separator used
  generalize freshName base separator used = name at first ⊢
  cases first with
  | plain => exact .inl rfl
  | counted => exact .inr ⟨_, rfl⟩

/-- A fresh name begins with the base. -/
theorem prefix_freshName (base separator : String) (used : List String) :
    base.toList <+: (freshName base separator used).toList := by
  rcases freshName_cases base separator used with same | ⟨k, same⟩
  · simp only [same, List.prefix_rfl]
  · rw [same, String.toList_append, String.toList_append, List.append_assoc]
    exact List.prefix_append _ _

/-- A fresh name has no other characters than the base, the separator and numbers have. -/
theorem all_freshName {p : Char → Bool} {base separator : String} (used : List String)
    (digits : ∀ c, c.isDigit = true → p c = true) (h : base.toList.all p = true)
    (h' : separator.toList.all p = true) :
    (freshName base separator used).toList.all p = true := by
  rcases freshName_cases base separator used with same | ⟨k, same⟩
  · rw [same]
    exact h
  · have number : (toString k).toList.all p = true := by
      rw [Nat.toString_eq_repr, Nat.toList_repr, List.all_eq_true]
      exact fun c mem => digits c (Nat.isDigit_of_mem_toDigits (by decide) (by decide) mem)
    rw [same, String.toList_append, String.toList_append, List.all_append, List.all_append, h, h',
      number]
    rfl

end WorkflowRepair.Repair
