import WorkflowRepair.Proofs.Template.Label
import WorkflowRepair.Proofs.Template.Reading
import WorkflowRepair.Proofs.Validation.Nodes

/-!
Names that references are built from. The name of a node is its label without outer blanks, which
has the same normal form, or else its id; unless a sign in it ends names or slots, the reference
that is built from it is read back with the same name.
-/

namespace WorkflowRepair

namespace Text

/-! ### Words -/

theorem words_cons_of_blank {c : Char} (blank : isBlank c = true) (rest : List Char) :
    words (c :: rest) = words rest := by
  conv_lhs => unfold words
  rw [if_pos blank]

theorem words_dropWhile (cs : List Char) : words (cs.dropWhile isBlank) = words cs := by
  induction cs with
  | nil => rfl
  | cons c rest ih =>
    cases blank : isBlank c with
    | true => rw [List.dropWhile_cons_of_pos blank, ih, words_cons_of_blank blank]
    | false => rw [List.dropWhile_cons_of_neg (by simp [blank])]

theorem words_append_blanks (cs : List Char) {blanks : List Char}
    (blank : ∀ c ∈ blanks, isBlank c = true) : words (cs ++ blanks) = words cs := by
  have none : words blanks = [] := words_eq_nil_of_blank (List.all_eq_true.2 blank)
  induction cs with
  | nil => exact none
  | cons c rest ih =>
    rw [List.cons_append]
    unfold words
    rw [ih]
    cases rest with
    | nil =>
      rw [List.nil_append, words]
      cases blanks <;> rfl
    | cons d more => cases words (d :: more) <;> rfl

theorem words_trim (cs : List Char) : words (trim cs) = words cs := by
  have parts : cs.dropWhile isBlank =
      trim cs ++ ((cs.dropWhile isBlank).reverse.takeWhile isBlank).reverse := by
    rw [trim, ← List.reverse_append, List.takeWhile_append_dropWhile, List.reverse_reverse]
  have blank : ∀ c ∈ ((cs.dropWhile isBlank).reverse.takeWhile isBlank).reverse,
      isBlank c = true := fun c mem => List.mem_takeWhile_imp (List.mem_reverse.1 mem)
  rw [← words_dropWhile cs, parts, words_append_blanks _ blank]

theorem words_eq_nil_iff {cs : List Char} : words cs = [] ↔ cs.all isBlank = true := by
  refine ⟨fun none => List.all_eq_true.2 fun c mem => ?_, words_eq_nil_of_blank⟩
  by_contra solid
  obtain ⟨word, inside, -⟩ := exists_word mem (Bool.eq_false_iff.2 solid)
  rw [none] at inside
  cases inside

theorem words_solid {cs : List Char} (given : cs ≠ []) (solid : ∀ c ∈ cs, isBlank c = false) :
    words cs = [cs] := by
  induction cs with
  | nil => exact absurd rfl given
  | cons c rest ih =>
    obtain ⟨here, later⟩ := List.forall_mem_cons.1 solid
    unfold words
    rw [if_neg (by simp [here])]
    cases rest with
    | nil => rfl
    | cons d more =>
      rw [ih (List.cons_ne_nil d more) later]
      simp [later d List.mem_cons_self]

theorem isBlankText_of_solid {s : String} (given : s ≠ "")
    (solid : ∀ c ∈ s.toList, isBlank c = false) : isBlankText s = false := by
  refine Bool.eq_false_iff.2 fun blank => given (String.toList_inj.1 ?_)
  refine List.eq_nil_iff_forall_not_mem.2 fun c mem => ?_
  have solid := solid c mem
  rw [List.all_eq_true.1 blank c mem] at solid
  cases solid

theorem isBlankText_strip (s : String) : isBlankText (strip s) = isBlankText s := by
  rw [isBlankText, isBlankText, strip, String.toList_ofList, Bool.eq_iff_iff, ← words_eq_nil_iff,
    ← words_eq_nil_iff, words_trim]

/-! ### Lower case -/

/-- Whether a character is its own lower-case form wherever it stands. -/
def isCaseless (c : Char) : Bool :=
  c != 'Σ' && c != 'İ' && (lowerShift? lowerRuns c.toNat).isNone

theorem lowerAfter_of_caseless {before cs : List Char} (h : ∀ c ∈ cs, isCaseless c = true) :
    lowerAfter before cs = cs := by
  induction cs generalizing before with
  | nil => rfl
  | cons c rest ih =>
    obtain ⟨here, later⟩ := List.forall_mem_cons.1 h
    simp only [isCaseless, Bool.and_eq_true, bne_iff_ne, Option.isNone_iff_eq_none] at here
    obtain ⟨⟨sigma, dotted⟩, none⟩ := here
    have same : lowerAt before c rest = [c] := by
      rw [lowerAt, if_neg sigma, if_neg dotted, none]
    rw [lowerAfter, same, ih later]
    rfl

theorem isCaseless_of_isDigit {c : Char} (h : c.isDigit = true) : isCaseless c = true := by
  have bounds : 48 ≤ c.toNat ∧ c.toNat ≤ 57 := by
    simp only [Char.isDigit, Bool.and_eq_true, decide_eq_true_eq, ge_iff_le,
      UInt32.le_iff_toNat_le] at h
    exact h
  have below : ∀ n < 58, lowerShift? lowerRuns n = none := by decide
  have sigma : c ≠ 'Σ' := by
    rintro rfl
    exact absurd bounds.2 (by decide)
  have dotted : c ≠ 'İ' := by
    rintro rfl
    exact absurd bounds.2 (by decide)
  simp [isCaseless, sigma, dotted, below c.toNat (by omega)]

end Text

namespace Template

theorem normalLabel_strip (label : String) :
    normalLabel (Text.strip label) = normalLabel label := by
  rw [normalLabel, normalLabel, Text.strip, String.toList_ofList, Text.words_trim]

/-- A label of one word without case is its own normal form. -/
theorem normalLabel_of_caseless {label : String} (given : label ≠ "")
    (solid : ∀ c ∈ label.toList, Text.isBlank c = false ∧ Text.isCaseless c = true) :
    normalLabel label = label := by
  have some : label.toList ≠ [] := fun none => given (String.toList_inj.1 none)
  rw [normalLabel, Text.words_solid some fun c mem => (solid c mem).1, Text.lower,
    String.toList_ofList]
  show String.ofList (Text.lowerAfter [] (label.toList ++ [])) = label
  rw [List.append_nil, Text.lowerAfter_of_caseless fun c mem => (solid c mem).2,
    String.ofList_toList]

/-- A slot that is built from an ordinary name holds just the reference by this name. -/
theorem references_braced {name path : String} (ordinary : OrdinaryLabel name)
    (filled : Text.isBlankText name = false) (behind : IsPath path.toList) :
    references (braced (name ++ path)) = [⟨name ++ path, name, path⟩] := by
  have inside := isBody_renamed ordinary filled behind
  have parts : pieces (braced (name ++ path)).toList = [.slot (name ++ path).toList] := by
    have slot := pieces_slot inside []
    rw [List.append_nil] at slot
    rw [braced, String.toList_ofList, slot, pieces]
  have read : Piece.reference? (.slot (name ++ path).toList) = some ⟨name ++ path, name, path⟩ :=
    ofBody?_renamed ordinary filled behind
  rw [references, parts, List.filterMap_cons_some read]
  rfl

end Template

/-! ### Names of nodes -/

/-- No sign in the name ends names or slots. -/
def PlainName (name : String) : Prop := ∀ c ∈ name.toList, c ≠ '.' ∧ c ≠ '[' ∧ c ≠ '\x7d'

instance (name : String) : Decidable (PlainName name) :=
  List.decidableBAll (fun c => c ≠ '.' ∧ c ≠ '[' ∧ c ≠ '\x7d') name.toList

namespace Node

variable {n : Node}

theorem displayName_cases (n : Node) :
    n.isLabelled = true ∧ n.displayName = Text.strip n.label ∨
      n.isLabelled = false ∧ n.displayName = n.id := by
  unfold displayName
  cases n.isLabelled with
  | true => exact .inl ⟨rfl, rfl⟩
  | false => exact .inr ⟨rfl, rfl⟩

theorem isBlankText_displayName (identified : Validation.Identified n) :
    Text.isBlankText n.displayName = false := by
  rcases displayName_cases n with ⟨labelled, same⟩ | ⟨-, same⟩
  · rw [same, Text.isBlankText_strip]
    simpa [isLabelled] using labelled
  · rw [same]
    exact Text.isBlankText_of_solid identified.id identified.solid

theorem ordinaryLabel_displayName (identified : Validation.Identified n)
    (plain : PlainName n.displayName) : OrdinaryLabel n.displayName := by
  refine ⟨?_, plain⟩
  have trimmed : Text.Trimmed n.displayName.toList := by
    rcases displayName_cases n with ⟨-, same⟩ | ⟨-, same⟩
    · rw [same, Text.strip, String.toList_ofList]
      exact Text.trimmed_trim _
    · rw [same]
      exact ⟨fun c begins => identified.solid c (List.mem_of_mem_head? begins),
        fun c ends => identified.solid c (List.mem_of_getLast? ends)⟩
  rw [Text.strip, Text.trim_of_trimmed trimmed, String.ofList_toList]

end Node

end WorkflowRepair
