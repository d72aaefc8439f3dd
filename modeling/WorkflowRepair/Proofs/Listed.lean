import Mathlib.Data.List.Nodup
import Mathlib.Data.List.Perm.Basic

/-!
Lists in another order. A search comes to the same item when only one item qualifies, the least
number is the same, and a list with one item or none is the same list.
-/

namespace WorkflowRepair

variable {α : Type} {items items' : List α}

theorem nodup_eraseDups [DecidableEq α] : (items : List α) → items.eraseDups.Nodup
  | [] => List.nodup_nil
  | a :: rest => by
    rw [List.eraseDups_cons, List.nodup_cons, List.mem_eraseDups]
    refine ⟨fun mem => ?_, nodup_eraseDups _⟩
    simpa using (List.mem_filter.1 mem).2
termination_by items => items.length
decreasing_by exact Nat.lt_succ_of_le (List.length_filter_le _ _)

/-- Each item once, from a list in another order. -/
theorem eraseDups_perm [DecidableEq α] (perm : items'.Perm items) :
    items'.eraseDups.Perm items.eraseDups := by
  refine (List.perm_ext_iff_of_nodup (nodup_eraseDups _) (nodup_eraseDups _)).2 fun a => ?_
  rw [List.mem_eraseDups, List.mem_eraseDups, perm.mem_iff]

theorem find?_of_perm {p : α → Bool} (perm : items'.Perm items)
    (only : ∀ a ∈ items, ∀ b ∈ items, p a = true → p b = true → a = b) :
    items'.find? p = items.find? p := by
  cases found : items.find? p with
  | none =>
    rw [List.find?_eq_none] at found ⊢
    intro a mem
    exact found a (perm.mem_iff.1 mem)
  | some a =>
    have mem := List.mem_of_find?_eq_some found
    have first := List.find?_some found
    cases found' : items'.find? p with
    | none => exact absurd first (List.find?_eq_none.1 found' a (perm.mem_iff.2 mem))
    | some b =>
      have mem' := perm.mem_iff.1 (List.mem_of_find?_eq_some found')
      rw [only a mem b mem' first (List.find?_some found')]

theorem min?_of_perm {items items' : List Nat} (perm : items'.Perm items) :
    items'.min? = items.min? := by
  cases least : items.min? with
  | none =>
    rw [List.min?_eq_none_iff] at least ⊢
    rw [least] at perm
    exact perm.eq_nil
  | some a =>
    rw [List.min?_eq_some_iff] at least ⊢
    obtain ⟨mem, below⟩ := least
    exact ⟨perm.mem_iff.2 mem, fun b mem => below b (perm.mem_iff.1 mem)⟩

/-- In another order only a list of several items can be another list. -/
theorem eq_or_several (perm : items'.Perm items) :
    items' = items ∨ ∃ a b rest a' b' rest',
      items = a :: b :: rest ∧ items' = a' :: b' :: rest' := by
  match items, items' with
  | [], items' => exact .inl perm.eq_nil
  | [a], items' => exact .inl (List.perm_singleton.1 perm)
  | a :: b :: rest, [] => exact absurd perm.length_eq (by simp)
  | a :: b :: rest, [a'] => exact absurd perm.length_eq (by simp)
  | a :: b :: rest, a' :: b' :: rest' => exact .inr ⟨a, b, rest, a', b', rest', rfl, rfl⟩

end WorkflowRepair
