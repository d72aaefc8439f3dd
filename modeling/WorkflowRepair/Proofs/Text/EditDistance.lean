import Mathlib.Order.Bounds.Basic
import Mathlib.Order.MinMax
import WorkflowRepair.Text.EditDistance

/-!
The edit distance is the least number of edits. An edit puts in, takes out or exchanges one
character; it changes the distance to any text by one at most, and the distance can be walked down
to zero by edits. The rows are those of the table of distances between beginnings of the two texts,
which are kept here last character first.
-/

namespace WorkflowRepair.Text

/-- One character is put in, taken out or exchanged. -/
inductive Edit : List Char → List Char → Prop
  | insert (before after : List Char) (c : Char) : Edit (before ++ after) (before ++ c :: after)
  | delete (before after : List Char) (c : Char) : Edit (before ++ c :: after) (before ++ after)
  | substitute (before after : List Char) (c d : Char) :
      Edit (before ++ c :: after) (before ++ d :: after)

/-- So many edits in a row turn the first text into the second. -/
inductive Edits : Nat → List Char → List Char → Prop
  | done (a : List Char) : Edits 0 a a
  | step {n : Nat} {a b c : List Char} : Edit a b → Edits n b c → Edits (n + 1) a c

theorem Edit.cons {a b : List Char} (h : Edit a b) (c : Char) : Edit (c :: a) (c :: b) := by
  cases h with
  | insert before after d => exact .insert (c :: before) after d
  | delete before after d => exact .delete (c :: before) after d
  | substitute before after d e => exact .substitute (c :: before) after d e

theorem Edit.reverse {a b : List Char} (h : Edit a b) : Edit a.reverse b.reverse := by
  cases h with
  | insert before after c => simpa using Edit.insert after.reverse before.reverse c
  | delete before after c => simpa using Edit.delete after.reverse before.reverse c
  | substitute before after c d => simpa using Edit.substitute after.reverse before.reverse c d

namespace Edits

variable {n : Nat} {a b : List Char}

theorem cons (h : Edits n a b) (c : Char) : Edits n (c :: a) (c :: b) := by
  induction h with
  | done a => exact .done _
  | step first _ ih => exact .step (first.cons c) ih

theorem reverse (h : Edits n a b) : Edits n a.reverse b.reverse := by
  induction h with
  | done a => exact .done _
  | step first _ ih => exact .step first.reverse ih

theorem min {m : Nat} (h : Edits m a b) (h' : Edits n a b) : Edits (min m n) a b := by
  rcases min_choice m n with same | same
  · rw [same]
    exact h
  · rw [same]
    exact h'

theorem reverse_iff : Edits n a.reverse b.reverse ↔ Edits n a b := by
  constructor
  · intro h
    simpa using h.reverse
  · exact reverse

end Edits

/-! ### The distance by recursion -/

/-- The price of having the one character where the other stands. -/
def price (c d : Char) : Nat := if c = d then 0 else 1

theorem price_le_one (c d : Char) : price c d ≤ 1 := by
  unfold price
  split <;> omega

def distance : List Char → List Char → Nat
  | [], b => b.length
  | c :: a, [] => (c :: a).length
  | c :: a, d :: b =>
    min (min (distance a (d :: b) + 1) (distance (c :: a) b + 1)) (distance a b + price c d)
termination_by a b => a.length + b.length

section Distance

variable (a b : List Char) (c d : Char)

@[simp] theorem distance_nil_left : distance [] b = b.length := by rw [distance]

@[simp] theorem distance_nil_right : distance a [] = a.length := by
  cases a with
  | nil => rw [distance]
  | cons c a => rw [distance]

theorem distance_cons_cons : distance (c :: a) (d :: b) =
    min (min (distance a (d :: b) + 1) (distance (c :: a) b + 1)) (distance a b + price c d) := by
  rw [distance]

theorem distance_cons_left_le : distance (c :: a) b ≤ distance a b + 1 := by
  cases b with
  | nil => simp
  | cons d b =>
    rw [distance_cons_cons]
    omega

theorem distance_cons_right_le : distance a (d :: b) ≤ distance a b + 1 := by
  cases a with
  | nil => simp
  | cons c a =>
    rw [distance_cons_cons]
    omega

theorem distance_self : distance a a = 0 := by
  induction a with
  | nil => simp
  | cons c a ih =>
    rw [distance_cons_cons, ih, price, if_pos rfl]
    omega

/-! ### An edit changes it by one at most -/

theorem distance_le_cons_left : distance a b ≤ distance (c :: a) b + 1 := by
  induction b with
  | nil =>
    simp only [distance_nil_right, List.length_cons]
    omega
  | cons d b ih =>
    have drop : distance a (d :: b) ≤ distance a b + 1 := distance_cons_right_le a b d
    rw [distance_cons_cons]
    omega

theorem distance_exchange_le : distance (c :: a) b ≤ distance (d :: a) b + 1 := by
  induction b with
  | nil => simp
  | cons e b ih =>
    have cost : price c e ≤ 1 := price_le_one c e
    rw [distance_cons_cons, distance_cons_cons]
    omega

variable {a b}

/-- A bound that holds for all second texts passes to texts with one more character in front. -/
theorem distance_cons_mono {a' : List Char} (h : ∀ b, distance a b ≤ distance a' b + 1) :
    distance (c :: a) b ≤ distance (c :: a') b + 1 := by
  induction b with
  | nil =>
    have none := h []
    simp only [distance_nil_right, List.length_cons] at none ⊢
    omega
  | cons d b ih =>
    have out := h (d :: b)
    have both := h b
    rw [distance_cons_cons, distance_cons_cons]
    omega

theorem distance_append_mono (before : List Char) {a' : List Char}
    (h : ∀ b, distance a b ≤ distance a' b + 1) (b : List Char) :
    distance (before ++ a) b ≤ distance (before ++ a') b + 1 := by
  induction before generalizing b with
  | nil => exact h b
  | cons c before ih => exact distance_cons_mono c ih

theorem distance_le_of_edit {a' : List Char} (h : Edit a a') (b : List Char) :
    distance a b ≤ distance a' b + 1 := by
  cases h with
  | insert before after c =>
    exact distance_append_mono before (fun b => distance_le_cons_left after b c) b
  | delete before after c =>
    have drop (b : List Char) : distance (c :: after) b ≤ distance after b + 1 :=
      distance_cons_left_le after b c
    exact distance_append_mono before drop b
  | substitute before after c d =>
    exact distance_append_mono before (fun b => distance_exchange_le after b c d) b

theorem distance_le_of_edits {n : Nat} (h : Edits n a b) : distance a b ≤ n := by
  induction h with
  | done a => rw [distance_self]
  | @step n a a' b first _ ih =>
    have near := distance_le_of_edit first b
    omega

/-! ### Edits that come to it -/

theorem edits_insert_all (b : List Char) : Edits b.length [] b := by
  induction b with
  | nil => exact .done []
  | cons d b ih => exact .step (.insert [] [] d) (ih.cons d)

theorem edits_delete_all (a : List Char) : Edits a.length a [] := by
  induction a with
  | nil => exact .done []
  | cons c a ih => exact .step (.delete [] a c) ih

theorem edits_distance (a b : List Char) : Edits (distance a b) a b := by
  fun_induction distance a b with
  | case1 b => exact edits_insert_all b
  | case2 c a => exact edits_delete_all (c :: a)
  | case3 c a d b deleted inserted kept =>
    have delete : Edits (distance a (d :: b) + 1) (c :: a) (d :: b) :=
      .step (.delete [] a c) deleted
    have insert : Edits (distance (c :: a) b + 1) (c :: a) (d :: b) :=
      .step (.insert [] (c :: a) d) (inserted.cons d)
    have exchange : Edits (distance a b + price c d) (c :: a) (d :: b) := by
      by_cases same : c = d
      · rw [price, if_pos same, same]
        exact kept.cons d
      · rw [price, if_neg same]
        exact .step (.substitute [] a c d) (kept.cons d)
    exact (delete.min insert).min exchange

end Distance

theorem isLeast_distance (a b : List Char) : IsLeast {n | Edits n a b} (distance a b) :=
  ⟨edits_distance a b, fun _ edits => distance_le_of_edits edits⟩

/-! ### Rows -/

/-- The row of a beginning of the first text, from the given beginning of the second on. -/
def rowFrom (done passed : List Char) : List Char → List Nat
  | [] => [distance done passed]
  | d :: rest => distance done passed :: rowFrom done (d :: passed) rest

theorem rowFrom_eq_cons (done passed rest : List Char) :
    rowFrom done passed rest = distance done passed :: (rowFrom done passed rest).tail := by
  cases rest <;> rfl

theorem extendRow_rowFrom (c : Char) (done passed rest : List Char) :
    extendRow c rest (rowFrom done passed rest) (distance (c :: done) passed) =
      (rowFrom (c :: done) passed rest).tail := by
  induction rest generalizing passed with
  | nil => rfl
  | cons d rest ih =>
    have entry : Nat.min (Nat.min (distance done (d :: passed) + 1)
        (distance (c :: done) passed + 1)) (distance done passed + if c = d then 0 else 1) =
          distance (c :: done) (d :: passed) := (distance_cons_cons done passed c d).symm
    have next := ih (d :: passed)
    rw [rowFrom_eq_cons done] at next
    rw [rowFrom, rowFrom_eq_cons done (d :: passed), rowFrom, List.tail_cons]
    simp only [extendRow]
    rw [entry, next, ← rowFrom_eq_cons]

theorem nextRow_rowFrom (second done : List Char) (c : Char) :
    nextRow second (rowFrom done [] second) c = rowFrom (c :: done) [] second := by
  have first : distance done [] + 1 = distance (c :: done) [] := by simp
  rw [rowFrom_eq_cons done, nextRow, ← rowFrom_eq_cons, first, extendRow_rowFrom,
    ← rowFrom_eq_cons]

theorem rowFrom_nil (passed rest : List Char) :
    rowFrom [] passed rest = List.range' passed.length (rest.length + 1) := by
  induction rest generalizing passed with
  | nil => simp [rowFrom]
  | cons d rest ih =>
    rw [rowFrom, ih, distance_nil_left]
    rfl

theorem firstRow_eq (second : List Char) : firstRow second = rowFrom [] [] second := by
  rw [firstRow, rowFrom_nil, List.range_eq_range', List.length_nil]

theorem foldl_nextRow (second done first : List Char) :
    first.foldl (nextRow second) (rowFrom done [] second) =
      rowFrom (first.reverse ++ done) [] second := by
  induction first generalizing done with
  | nil => rfl
  | cons c first ih => rw [List.foldl_cons, nextRow_rowFrom, ih, List.reverse_cons,
      List.append_assoc, List.singleton_append]

theorem getLastD_rowFrom (done passed rest : List Char) :
    (rowFrom done passed rest).getLastD 0 = distance done (rest.reverse ++ passed) := by
  induction rest generalizing passed with
  | nil => rfl
  | cons d rest ih =>
    have behind := ih (d :: passed)
    rw [rowFrom_eq_cons] at behind
    rw [rowFrom, rowFrom_eq_cons, List.reverse_cons, List.append_assoc, List.singleton_append,
      ← behind]
    rfl

theorem editDistance_eq (a b : String) :
    editDistance a b = distance a.toList.reverse b.toList.reverse := by
  rw [editDistance, firstRow_eq, foldl_nextRow, getLastD_rowFrom, List.append_nil, List.append_nil]

/-- The edit distance is the least number of edits. -/
theorem isLeast_editDistance (a b : String) :
    IsLeast {n | Edits n a.toList b.toList} (editDistance a b) := by
  have least := isLeast_distance a.toList.reverse b.toList.reverse
  simpa only [editDistance_eq, Edits.reverse_iff] using least

end WorkflowRepair.Text
