import Mathlib.Data.String.Basic
import WorkflowRepair.Json.Printer

/-!
The text of a document is a single line. Numbers are made of digits, signs and letters, a string has
its control characters escaped, and by induction on the document no part of its text is a control
character.
-/

namespace WorkflowRepair

namespace Text

/-- No character is a control character or a space. -/
def Compact (cs : List Char) : Prop := ∀ c ∈ cs, 0x20 < c.toNat

/-- No character is a control character. -/
def SingleLine (cs : List Char) : Prop := ∀ c ∈ cs, 0x20 ≤ c.toNat

section

variable {c : Char} {cs ds : List Char}

theorem Compact.singleLine (h : Compact cs) : SingleLine cs := fun c mem => (h c mem).le

theorem Compact.cons (here : 0x20 < c.toNat) (h : Compact cs) : Compact (c :: cs) :=
  List.forall_mem_cons.2 ⟨here, h⟩

theorem Compact.append (h : Compact cs) (h' : Compact ds) : Compact (cs ++ ds) :=
  List.forall_mem_append.2 ⟨h, h'⟩

theorem Compact.subset (h : Compact cs) (sub : ds ⊆ cs) : Compact ds := fun c mem => h c (sub mem)

theorem Compact.replicate (n : Nat) (here : 0x20 < c.toNat) : Compact (List.replicate n c) := by
  intro d mem
  rwa [List.eq_of_mem_replicate mem]

theorem SingleLine.cons (here : 0x20 ≤ c.toNat) (h : SingleLine cs) : SingleLine (c :: cs) :=
  List.forall_mem_cons.2 ⟨here, h⟩

theorem SingleLine.append (h : SingleLine cs) (h' : SingleLine ds) : SingleLine (cs ++ ds) :=
  List.forall_mem_append.2 ⟨h, h'⟩

theorem SingleLine.not_mem (h : SingleLine cs) (control : c.toNat < 0x20) : c ∉ cs :=
  fun mem => absurd (h c mem) (Nat.not_le.2 control)

end

theorem compact_nil : Compact [] := List.forall_mem_nil _

/-! ### Digits -/

theorem toNat_digitChar (n : Nat) : 0x20 < (Nat.digitChar n).toNat := by
  rcases Nat.lt_or_ge n 16 with small | large
  · exact (by decide : ∀ m < 16, 0x20 < (Nat.digitChar m).toNat) n small
  · simp (disch := omega) only [Nat.digitChar, if_neg]
    decide

theorem compact_toDigitsCore {base fuel n : Nat} {behind : List Char} (h : Compact behind) :
    Compact (Nat.toDigitsCore base fuel n behind) := by
  induction fuel generalizing n behind with
  | zero => exact h
  | succ fuel ih =>
    have more : Compact (Nat.digitChar (n % base) :: behind) := h.cons (toNat_digitChar _)
    rw [Nat.toDigitsCore]
    split
    · exact more
    · exact ih more

theorem compact_toDigits (base n : Nat) : Compact (Nat.toDigits base n) :=
  compact_toDigitsCore compact_nil

theorem compact_hexPadded (width n : Nat) : Compact (hexPadded width n) :=
  (Compact.replicate _ (by decide)).append (compact_toDigits 16 n)

end Text

open Text

/-! ### Numbers -/

namespace Decimal

theorem compact_padded (width n : Nat) : Compact (padded width n) :=
  (Compact.replicate _ (by decide)).append (compact_toDigits 10 n)

theorem compact_significant (n : Nat) : Compact (significant n) := by
  unfold significant
  dsimp only
  split
  · exact compact_nil.cons (by decide)
  · refine (compact_toDigits 10 n).subset fun c mem => ?_
    exact List.mem_reverse.1 ((List.dropWhile_sublist _).subset (List.mem_reverse.1 mem))

theorem compact_shortest (mantissa : Nat) (exponent : Int) :
    Compact (shortest mantissa exponent).digits := by
  unfold shortest
  dsimp only
  split
  · exact compact_nil.cons (by decide)
  · split
    · exact compact_significant _
    · exact compact_nil.cons (by decide)

theorem compact_positional {digits : List Char} (h : Compact digits) (whole : Int) :
    Compact (positional digits whole) := by
  have zeros (n : Nat) : Compact (List.replicate n '0') := .replicate n (by decide)
  unfold positional
  dsimp only
  split
  · exact (((zeros _).cons (by decide)).cons (by decide)).append h
  · refine ((h.subset (List.take_subset _ _)).append (zeros _)).append (.cons (by decide) ?_)
    split
    · exact compact_nil.cons (by decide)
    · exact h.subset (List.drop_subset _ _)

theorem compact_render {layout : DecimalLayout} {d : Decimal}
    (mark : 0x20 < layout.exponentMark.toNat) (h : Compact d.digits) :
    Compact (render layout d) := by
  unfold render
  dsimp only
  split
  · exact compact_positional h _
  · refine Compact.append ?_ (.cons mark (.cons ?_ (compact_padded _ _)))
    · split
      · exact compact_nil.cons (by decide)
      · next digits => exact digits ▸ h
      · next digits =>
        rw [digits, Compact, List.forall_mem_cons] at h
        exact .cons h.1 (.cons (by decide) h.2)
    · split <;> decide

end Decimal

theorem Double.compact_render (d : Double) : Compact d.render.toList := by
  cases d with
  | nan => simp [Compact, Double.render]
  | infinite negative => cases negative <;> simp [Compact, Double.render]
  | finite negative m e =>
    have body : Compact (Decimal.render Decimal.documentLayout (Decimal.shortest m e)) :=
      Decimal.compact_render (by decide) (Decimal.compact_shortest m e)
    cases negative <;> simpa [Compact, Double.render] using body

theorem Number.toList_render_int (n : Int) : (Number.int n).render.toList =
    if n < 0 then '-' :: Nat.toDigits 10 n.natAbs else Nat.toDigits 10 n.natAbs := by
  rw [Number.render, Int.toString_eq_repr]
  cases n with
  | ofNat n => simp [Int.repr]
  | negSucc n => simp [Int.repr]

theorem Number.compact_render (n : Number) : Compact n.render.toList := by
  cases n with
  | int n =>
    rw [Number.toList_render_int]
    split
    · exact (compact_toDigits 10 _).cons (by decide)
    · exact compact_toDigits 10 _
  | double d => exact d.compact_render

/-! ### Documents -/

namespace Json

/-- The characters that are written by a backslash and a letter of their own. -/
def shortEscapes : List (Char × Char) := [('"', '"'), ('\\', '\\'), ('\n', 'n'), ('\r', 'r'),
  ('\t', 't'), ('\x08', 'b'), ('\x0c', 'f')]

/-- A character is written by a letter of its own, by its code, or as it is. -/
theorem escapedChar_cases (c : Char) :
    (∃ letter, (c, letter) ∈ shortEscapes ∧ escapedChar c = ['\\', letter]) ∨
      (c.toNat < 0x20 ∧ escapedChar c = '\\' :: 'u' :: hexPadded 4 c.toNat) ∨
      (0x20 ≤ c.toNat ∧ c ≠ '"' ∧ c ≠ '\\' ∧ escapedChar c = [c]) := by
  by_cases short : c ∈ shortEscapes.map Prod.fst
  · obtain ⟨⟨c, letter⟩, mem, rfl⟩ := List.mem_map.1 short
    exact .inl ⟨letter, mem,
      (by decide : ∀ pair ∈ shortEscapes, escapedChar pair.1 = ['\\', pair.2]) _ mem⟩
  · simp only [shortEscapes, List.map_cons, List.map_nil, List.mem_cons, List.not_mem_nil, not_or]
      at short
    obtain ⟨quote, backslash, feed, carriage, tab, back, form, -⟩ := short
    simp only [escapedChar, quote, backslash, feed, carriage, tab, back, form, if_false]
    by_cases control : c.toNat < 0x20
    · exact .inr (.inl ⟨control, if_pos control⟩)
    · exact .inr (.inr ⟨Nat.not_lt.1 control, quote, backslash, if_neg control⟩)

theorem singleLine_escapedChar (c : Char) : SingleLine (escapedChar c) := by
  rcases escapedChar_cases c with ⟨letter, mem, short⟩ | ⟨-, coded⟩ | ⟨visible, -, -, plain⟩
  · rw [short]
    have shown := (by decide : ∀ pair ∈ shortEscapes, 0x20 ≤ pair.2.toNat) _ mem
    exact .cons (by decide) (.cons shown (List.forall_mem_nil _))
  · rw [coded]
    exact .cons (by decide) (.cons (by decide) (compact_hexPadded 4 _).singleLine)
  · rw [plain]
    exact .cons visible (List.forall_mem_nil _)

theorem singleLine_renderString (s : String) : SingleLine (renderString s) := by
  have inner : SingleLine (s.toList.flatMap escapedChar) := by
    intro c mem
    obtain ⟨d, -, mem⟩ := List.mem_flatMap.1 mem
    exact singleLine_escapedChar d c mem
  exact .append (.cons (by decide) inner) (.cons (by decide) (List.forall_mem_nil _))

mutual

/-- A value has no control character, since its parts have none. -/
theorem singleLine_renderChars (j : Json) : SingleLine (renderChars j) := by
  match j with
  | .null | .bool true | .bool false => simp [renderChars, SingleLine]
  | .num n => exact (Number.compact_render n).singleLine
  | .str s => exact singleLine_renderString s
  | .arr [] | .obj [] => simp [renderChars, SingleLine]
  | .arr (item :: rest) =>
    exact .append (.append (.cons (by decide) (singleLine_renderChars item))
      (singleLine_renderItems rest)) (.cons (by decide) (List.forall_mem_nil _))
  | .obj ((key, value) :: rest) =>
    exact .append (.append (.append (.cons (by decide) (singleLine_renderString key))
      (.cons (by decide) (.cons (by decide) (singleLine_renderChars value))))
      (singleLine_renderMembers rest)) (.cons (by decide) (List.forall_mem_nil _))

theorem singleLine_renderItems (items : List Json) : SingleLine (renderItems items) := by
  match items with
  | [] => exact List.forall_mem_nil _
  | item :: rest =>
    exact .append (.cons (by decide) (.cons (by decide) (singleLine_renderChars item)))
      (singleLine_renderItems rest)

theorem singleLine_renderMembers (members : Members) : SingleLine (renderMembers members) := by
  match members with
  | [] => exact List.forall_mem_nil _
  | (key, value) :: rest =>
    exact .append (.append (.cons (by decide) (.cons (by decide) (singleLine_renderString key)))
      (.cons (by decide) (.cons (by decide) (singleLine_renderChars value))))
      (singleLine_renderMembers rest)

end

end Json

end WorkflowRepair
