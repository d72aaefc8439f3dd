import WorkflowRepair.Extraction

/-!
What the scan for a closing brace makes of a document. The scan knows of braces, quotes and
backslashes only, and yet it passes over everything that the reader takes in and comes out where it
went in: a string ends for both at the same quote, words and numbers have nothing in them that the
scan heeds, and an object opens as many braces as it closes. So the brace that closes an object for
the reader is the one at which the scan ends.
-/

namespace WorkflowRepair.Extraction

open Json

/-! ### Passing over characters -/

/-- The scan passes over the characters from one nesting to another and does not end in them. -/
def Passes (n : Nesting) (cs : List Char) (n' : Nesting) : Prop :=
  ∀ more, balanced? n (cs ++ more) = (balanced? n' more).map (cs ++ ·)

namespace Passes

variable {n n' n'' : Nesting} {c : Char} {cs cs' : List Char}

theorem nil (n : Nesting) : Passes n [] n := by
  intro more
  simp

theorem cons (stays : n.closes c = false) (h : Passes (n.next c) cs n') :
    Passes n (c :: cs) n' := by
  intro more
  simp [balanced?, stays, h more, Function.comp_def]

theorem append (h : Passes n cs n') (h' : Passes n' cs' n'') : Passes n (cs ++ cs') n'' := by
  intro more
  rw [List.append_assoc, h, h']
  simp [Function.comp_def]

end Passes

/-- The nesting outside of quotes in so many braces and one. -/
def opened (depth : Nat) : Nesting := { depth := depth + 1 }

/-- The nesting in quotes in so many braces and one. -/
def quoted (depth : Nat) : Nesting := { depth := depth + 1, quoted := true }

/-- Characters that leave the nesting in any braces as it is. -/
def Level (cs : List Char) : Prop := ∀ depth, Passes (opened depth) cs (opened depth)

/-- Characters in quotes, up to the quote that ends them. -/
def Ends (cs : List Char) : Prop := ∀ depth, Passes (quoted depth) cs (opened depth)

/-- Characters that the scan does not heed outside of quotes. -/
def Plain (c : Char) : Prop := c ≠ '"' ∧ c ≠ '\x7b' ∧ c ≠ '\x7d'

instance (c : Char) : Decidable (Plain c) :=
  inferInstanceAs (Decidable (c ≠ '"' ∧ c ≠ '\x7b' ∧ c ≠ '\x7d'))

namespace Level

variable {cs cs' : List Char} {c : Char}

theorem nil : Level [] := fun depth => .nil (opened depth)

theorem append (h : Level cs) (h' : Level cs') : Level (cs ++ cs') :=
  fun depth => (h depth).append (h' depth)

theorem plain (ordinary : Plain c) (h : Level cs) : Level (c :: cs) := by
  intro depth
  obtain ⟨quote, opening, closing⟩ := ordinary
  have stays : (opened depth).next c = opened depth := by
    simp [opened, Nesting.next, quote, opening, closing]
  refine .cons (by simp [opened, Nesting.closes, closing]) ?_
  rw [stays]
  exact h depth

theorem of_plain (ordinary : ∀ c ∈ cs, Plain c) : Level cs := by
  induction cs with
  | nil => exact nil
  | cons c cs ih =>
    obtain ⟨first, later⟩ := List.forall_mem_cons.1 ordinary
    exact plain first (ih later)

theorem quote (h : Ends cs) : Level ('"' :: cs) := by
  intro depth
  have begins : (opened depth).next '"' = quoted depth := rfl
  refine .cons (by simp [opened, Nesting.closes]) ?_
  rw [begins]
  exact h depth

/-- An object is level when what stands in its braces is. -/
theorem braces (h : Level cs) : Level ('\x7b' :: (cs ++ ['\x7d'])) := by
  intro depth
  have opens : (opened depth).next '\x7b' = opened (depth + 1) := rfl
  have closes : (opened (depth + 1)).next '\x7d' = opened depth := rfl
  refine .cons rfl ?_
  rw [opens]
  refine (h (depth + 1)).append (.cons ?_ ?_)
  · simp [opened, Nesting.closes]
  · rw [closes]
    exact .nil _

end Level

namespace Ends

variable {cs : List Char} {c : Char}

theorem quote : Ends ['"'] := by
  intro depth
  have ends : (quoted depth).next '"' = opened depth := rfl
  exact .cons rfl (ends ▸ .nil _)

theorem plain (noQuote : c ≠ '"') (noBackslash : c ≠ '\\') (h : Ends cs) : Ends (c :: cs) := by
  intro depth
  have stays : (quoted depth).next c = quoted depth := by
    simp [quoted, Nesting.next, noQuote, noBackslash]
  refine .cons (by simp [quoted, Nesting.closes]) ?_
  rw [stays]
  exact h depth

/-- Whatever follows a backslash is passed over with it. -/
theorem escaped (c : Char) (h : Ends cs) : Ends ('\\' :: c :: cs) := by
  intro depth
  have back : ((quoted depth).next '\\').next c = quoted depth := rfl
  refine .cons rfl (.cons rfl ?_)
  rw [back]
  exact h depth

end Ends

/-- The scan ends at the brace that closes the first. -/
theorem balanced?_braces {cs : List Char} (h : Level cs) (more : List Char) :
    balanced? {} ('\x7b' :: (cs ++ '\x7d' :: more)) = some ('\x7b' :: (cs ++ ['\x7d'])) := by
  have opens : ({} : Nesting).next '\x7b' = opened 0 := rfl
  have first : ({} : Nesting).closes '\x7b' = false := rfl
  have last : (opened 0).closes '\x7d' = true := rfl
  simp [balanced?, first, opens, h 0 ('\x7d' :: more), last]

/-- What the scan finds is the front of the text and ends with a brace. -/
theorem exists_of_balanced? {n : Nesting} {cs found : List Char} (h : balanced? n cs = some found) :
    ∃ inner more, found = inner ++ ['\x7d'] ∧ cs = inner ++ '\x7d' :: more := by
  induction cs generalizing n found with
  | nil => simp [balanced?] at h
  | cons c cs ih =>
    rw [balanced?] at h
    split at h
    · next closes =>
      cases h
      obtain rfl : c = '\x7d' := by
        simp [Nesting.closes] at closes
        exact closes.1.2
      exact ⟨[], cs, rfl, rfl⟩
    · obtain ⟨later, scan, rfl⟩ := Option.map_eq_some_iff.1 h
      obtain ⟨inner, more, rfl, rfl⟩ := ih scan
      exact ⟨c :: inner, more, rfl, rfl⟩

end WorkflowRepair.Extraction
