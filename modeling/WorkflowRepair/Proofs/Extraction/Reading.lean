import Mathlib.Data.List.TakeWhile
import WorkflowRepair.Proofs.Extraction.Nesting

/-!
What the reader takes in, seen by the scan for a closing brace. Words, numbers and space are plain,
a string goes up to the quote that ends it, and by induction on the reader every value is level; an
object is level between its braces.
-/

namespace WorkflowRepair.Extraction

open Json

/-- What was read of the characters before the rest is level. -/
def Leaves (cs rest : List Char) : Prop := ∃ used, cs = used ++ rest ∧ Level used

/-- What was read of the characters before a closing brace and the rest is level. -/
def Closes (cs rest : List Char) : Prop := Leaves cs ('\x7d' :: rest)

namespace Leaves

variable {cs rest later : List Char}

theorem refl (cs : List Char) : Leaves cs cs := ⟨[], rfl, .nil⟩

theorem trans (h : Leaves cs rest) (h' : Leaves rest later) : Leaves cs later := by
  obtain ⟨used, rfl, level⟩ := h
  obtain ⟨more, rfl, level'⟩ := h'
  exact ⟨used ++ more, (List.append_assoc used more later).symm, level.append level'⟩

theorem plain {c : Char} (ordinary : Plain c) (h : Leaves cs rest) : Leaves (c :: cs) rest := by
  obtain ⟨used, rfl, level⟩ := h
  exact ⟨c :: used, rfl, level.plain ordinary⟩

theorem drop {used : List Char} (front : used <+: cs) (plain : ∀ c ∈ used, Plain c) :
    Leaves cs (cs.drop used.length) := by
  obtain ⟨rest, rfl⟩ := front
  exact ⟨used, by rw [List.drop_left], .of_plain plain⟩

theorem dropWhile {p : Char → Bool} (plain : ∀ c, p c = true → Plain c) (cs : List Char) :
    Leaves cs (cs.dropWhile p) :=
  ⟨cs.takeWhile p, List.takeWhile_append_dropWhile.symm,
    .of_plain fun c mem => plain c (List.mem_takeWhile_imp mem)⟩

end Leaves

theorem Closes.braces {cs rest : List Char} (h : Closes cs rest) :
    Leaves ('\x7b' :: cs) rest := by
  obtain ⟨inner, rfl, level⟩ := h
  exact ⟨'\x7b' :: (inner ++ ['\x7d']), by simp, level.braces⟩

/-! ### Words and numbers -/

theorem plain_of_isSpace (c : Char) (h : isSpace c = true) : Plain c := by
  simp only [isSpace, decide_eq_true_eq] at h
  rcases h with rfl | rfl | rfl | rfl <;> decide

theorem plain_of_isDigit (c : Char) (h : isDigit c = true) : Plain c := by
  refine ⟨?_, ?_, ?_⟩
  all_goals
    rintro rfl
    exact absurd h (by decide)

theorem leaves_skipSpace (cs : List Char) : Leaves cs (skipSpace cs) :=
  .dropWhile plain_of_isSpace cs

theorem leaves_wholeDigits (cs : List Char) :
    Leaves cs (cs.drop (wholeDigits cs).length) := by
  cases cs with
  | nil => exact .refl []
  | cons c rest =>
    by_cases zero : c = '0'
    · subst zero
      exact .plain (by decide) (.refl rest)
    by_cases digit : isDigit c = true
    · have whole : wholeDigits (c :: rest) = c :: rest.takeWhile isDigit := by
        simp [wholeDigits, zero, digit]
      rw [whole]
      refine .drop (List.cons_prefix_cons.2 ⟨rfl, List.takeWhile_prefix isDigit⟩) ?_
      refine List.forall_mem_cons.2 ⟨plain_of_isDigit c digit, fun d mem => ?_⟩
      exact plain_of_isDigit d (List.mem_takeWhile_imp mem)
    · have none : wholeDigits (c :: rest) = [] := by simp [wholeDigits, zero, digit]
      rw [none]
      exact .refl _

theorem leaves_readFraction (cs : List Char) :
    Leaves cs (((readFraction cs).map Prod.snd).getD cs) := by
  unfold readFraction
  split
  · next rest =>
    dsimp only
    split
    · exact .refl _
    · exact .plain (by decide) (.dropWhile plain_of_isDigit rest)
  · exact .refl _

/-- The digits of an exponent, when there are any. -/
theorem leaves_digits {cs body : List Char} (h : Leaves cs body) (n : Int) :
    Leaves cs (((if (body.takeWhile isDigit).isEmpty then none
      else some (n, body.dropWhile isDigit)).map Prod.snd).getD cs) := by
  split
  · exact .refl cs
  · exact h.trans (.dropWhile plain_of_isDigit body)

theorem leaves_readExponent (cs : List Char) :
    Leaves cs (((readExponent cs).map Prod.snd).getD cs) := by
  unfold readExponent
  split
  · next c rest =>
    split
    · next mark =>
      have plain : Plain c := by rcases mark with rfl | rfl <;> decide
      dsimp only
      split
      · exact leaves_digits (.plain plain (.plain (by decide) (.refl _))) _
      · exact leaves_digits (.plain plain (.plain (by decide) (.refl _))) _
      · exact leaves_digits (.plain plain (.refl _)) _
    · exact .refl _
  · exact .refl _

theorem leaves_readUnsigned {negative : Bool} {cs rest : List Char} {n : Number}
    (h : readUnsigned negative cs = .ok (some (n, rest))) : Leaves cs rest := by
  have all := (leaves_wholeDigits cs).trans
    ((leaves_readFraction _).trans (leaves_readExponent _))
  unfold readUnsigned at h
  dsimp only at h
  split at h
  · cases h
  · split at h
    · split at h
      · cases h
      · cases h
        exact all
    · cases h
      exact all

theorem leaves_afterWord? {word : String} {cs rest : List Char}
    (plain : ∀ c ∈ word.toList, Plain c) (h : afterWord? word cs = some rest) :
    Leaves cs rest := by
  unfold afterWord? at h
  split at h
  · next front =>
    cases h
    rw [← String.length_toList]
    exact .drop (List.isPrefixOf_iff_prefix.1 front) plain
  · cases h

theorem plain_wordValues : ∀ entry ∈ wordValues, ∀ c ∈ entry.1.toList, Plain c := by
  simp [wordValues, Plain]

theorem eq_of_front {α : Type} {cs rest : List Char} {value : α} {v : Front α cs}
    (h : front cs value rest = .ok v) : v.value = value ∧ v.rest = rest := by
  unfold front at h
  split at h
  · cases h
    exact ⟨rfl, rfl⟩
  · cases h

theorem leaves_readScalar {cs : List Char} {v : Front Json cs} (h : readScalar cs = .ok v) :
    Leaves cs v.rest := by
  unfold readScalar at h
  split at h
  · next value rest found =>
    obtain ⟨entry, mem, word⟩ := List.exists_of_findSome?_eq_some found
    obtain ⟨rest', after, same⟩ := Option.map_eq_some_iff.1 word
    cases same
    rw [(eq_of_front h).2]
    exact leaves_afterWord? (plain_wordValues entry mem) after
  · split at h
    next negative body signed =>
    have sign : Leaves cs body := by
      split at signed
      all_goals cases signed
      · exact .plain (by decide) (.refl _)
      · exact .refl _
    split at h
    · cases h
    · cases h
    · next n rest unsigned =>
      rw [(eq_of_front h).2]
      exact sign.trans (leaves_readUnsigned unsigned)

/-! ### Strings -/

theorem inside_of_hexDigit? {c : Char} {n : Nat} (h : hexDigit? c = some n) :
    c ≠ '"' ∧ c ≠ '\\' := by
  have quote : hexDigit? '"' = none := by decide
  have backslash : hexDigit? '\\' = none := by decide
  constructor
  · rintro rfl
    rw [quote] at h
    cases h
  · rintro rfl
    rw [backslash] at h
    cases h

/-- Four digits are passed over within quotes. -/
theorem exists_of_hexQuad? {cs rest : List Char} {n : Nat} (h : hexQuad? cs = some (n, rest)) :
    ∃ digits, cs = digits ++ rest ∧ ∀ more, Ends more → Ends (digits ++ more) := by
  unfold hexQuad? at h
  split at h
  · next a b c d e rest' =>
    simp only [Option.bind_eq_bind, Option.bind_eq_some_iff, Option.some.injEq,
      Prod.mk.injEq] at h
    obtain ⟨_, ha, _, hb, _, hc, _, hd, -, rfl⟩ := h
    refine ⟨[a, b, c, d], rfl, fun more ends => ?_⟩
    have inside := fun {x m} (h : hexDigit? x = some m) => inside_of_hexDigit? h
    exact .plain (inside ha).1 (inside ha).2 (.plain (inside hb).1 (inside hb).2
      (.plain (inside hc).1 (inside hc).2 (.plain (inside hd).1 (inside hd).2 ends)))
  · cases h

/-- The digits of a character are passed over within quotes, and so is a pair of them. -/
theorem exists_of_readUnit {cs rest : List Char} {u : Char} (h : readUnit cs = .ok (u, rest)) :
    ∃ digits, cs = digits ++ rest ∧ ∀ more, Ends more → Ends (digits ++ more) := by
  unfold readUnit at h
  split at h
  · cases h
  · next high rest' first =>
    obtain ⟨digits, rfl, inside⟩ := exists_of_hexQuad? first
    split at h
    · split at h
      · next body =>
        split at h
        · cases h
          exact ⟨digits, rfl, inside⟩
        · split at h
          · cases h
          · next low rest'' second =>
            obtain ⟨digits', rfl, inside'⟩ := exists_of_hexQuad? second
            split at h
            · simp only [Except.ok.injEq, Prod.mk.injEq] at h
              obtain ⟨-, rfl⟩ := h
              refine ⟨digits ++ '\\' :: 'u' :: digits', by simp, fun more ends => ?_⟩
              simpa using inside _ (.escaped 'u' (inside' more ends))
            · cases h
              exact ⟨digits, rfl, inside⟩
      · cases h
        exact ⟨digits, rfl, inside⟩
    · cases h
      exact ⟨digits, rfl, inside⟩

/-- A string goes up to the quote at which it ends for the scan. -/
theorem ends_readString {opening : Nat} {cs s rest : List Char}
    (h : readString opening cs = .ok (s, rest)) : ∃ used, cs = used ++ rest ∧ Ends used := by
  fun_induction readString opening cs generalizing s with
  | case2 later =>
    cases h
    exact ⟨['"'], rfl, .quote⟩
  | case6 body u rest' unit _ s' rest'' later _ ih =>
    cases h
    obtain ⟨digits, rfl, inside⟩ := exists_of_readUnit unit
    obtain ⟨used, rfl, ends⟩ := ih later
    exact ⟨'\\' :: 'u' :: (digits ++ used), by simp, .escaped 'u' (inside used ends)⟩
  | case10 e body _ _ _ s' rest' later _ ih =>
    cases h
    obtain ⟨used, rfl, ends⟩ := ih later
    exact ⟨'\\' :: e :: used, rfl, .escaped e ends⟩
  | case13 c cs noQuote noBackslash _ s' rest' later ih =>
    cases h
    obtain ⟨used, rfl, ends⟩ := ih later
    exact ⟨c :: used, rfl, .plain noQuote noBackslash ends⟩
  | _ => cases h

/-! ### Values -/

section Values

variable {cs rest : List Char}

/-- The first character decides what kind of value there is. -/
theorem readValue_cases (cs : List Char) :
    (∃ rest, cs = '"' :: rest) ∨ (∃ rest, cs = '\x7b' :: rest) ∨ (∃ rest, cs = '[' :: rest) ∨
      readValue cs = readScalar cs := by
  rw [readValue.eq_def]
  split
  · next rest => exact .inl ⟨rest, rfl⟩
  · next rest => exact .inr (.inl ⟨rest, rfl⟩)
  · next rest => exact .inr (.inr (.inl ⟨rest, rfl⟩))
  · exact .inr (.inr (.inr rfl))

theorem readValue_quote {v : Front Json ('"' :: rest)} (h : readValue ('"' :: rest) = .ok v) :
    ∃ s, readString (rest.length + 1) rest = .ok (s, v.rest) ∧
      v.value = .str (String.ofList s) := by
  rw [readValue] at h
  split at h
  · cases h
  · next s rest' string =>
    rw [(eq_of_front h).2]
    exact ⟨s, string, (eq_of_front h).1⟩

/-- In braces there is nothing, or there are members, which are set one after another. -/
theorem readValue_brace {v : Front Json ('\x7b' :: rest)}
    (h : readValue ('\x7b' :: rest) = .ok v) :
    (skipSpace rest = '\x7d' :: v.rest ∧ v.value = .obj []) ∨
      ∃ m, readMembers (skipSpace rest) = .ok m ∧ v.rest = m.rest ∧
        v.value = .obj (Members.update [] m.value) := by
  rw [readValue] at h
  split at h
  · next empty =>
    rw [(eq_of_front h).2]
    exact .inl ⟨empty, (eq_of_front h).1⟩
  · split at h
    · cases h
    · next m members =>
      cases h
      exact .inr ⟨m, members, rfl, rfl⟩

/-- In brackets there is nothing, or there are items. -/
theorem readValue_bracket {v : Front Json ('[' :: rest)} (h : readValue ('[' :: rest) = .ok v) :
    (skipSpace rest = ']' :: v.rest ∧ v.value = .arr []) ∨
      ∃ m, readItems (skipSpace rest) = .ok m ∧ v.rest = m.rest ∧ v.value = .arr m.value := by
  rw [readValue] at h
  split at h
  · next empty =>
    rw [(eq_of_front h).2]
    exact .inl ⟨empty, (eq_of_front h).1⟩
  · split at h
    · cases h
    · next m items =>
      cases h
      exact .inr ⟨m, items, rfl, rfl⟩

/-- An item is followed by the closing bracket, or by a comma and more items. -/
theorem exists_of_readItems {v : Front (List Json) cs} (h : readItems cs = .ok v) :
    ∃ item, readValue cs = .ok item ∧
      ((skipSpace item.rest = ']' :: v.rest ∧ v.value = [item.value]) ∨
        ∃ rest more, skipSpace item.rest = ',' :: rest ∧ readItems (skipSpace rest) = .ok more ∧
          v.rest = more.rest ∧ v.value = item.value :: more.value) := by
  rw [readItems.eq_def] at h
  split at h
  · cases h
  · next item value =>
    refine ⟨item, value, ?_⟩
    split at h
    · next rest last =>
      rw [(eq_of_front h).2]
      exact .inl ⟨last, (eq_of_front h).1⟩
    · next rest comma =>
      dsimp only at h
      split at h
      · cases h
      · next more items =>
        cases h
        exact .inr ⟨rest, more, comma, items, rfl, rfl⟩
    · cases h

/-- A member is a key, a colon and a value, followed by the closing brace, or by a comma and more
members. -/
theorem exists_of_readMembers {v : Front Members cs} (h : readMembers cs = .ok v) :
    ∃ body key afterKey afterColon value, cs = '"' :: body ∧
      readString (body.length + 1) body = .ok (key, afterKey) ∧
      skipSpace afterKey = ':' :: afterColon ∧ readValue (skipSpace afterColon) = .ok value ∧
      ((skipSpace value.rest = '\x7d' :: v.rest ∧ v.value = [(String.ofList key, value.value)]) ∨
        ∃ rest more, skipSpace value.rest = ',' :: rest ∧
          readMembers (skipSpace rest) = .ok more ∧ v.rest = more.rest ∧
          v.value = (String.ofList key, value.value) :: more.value) := by
  rw [readMembers.eq_def] at h
  split at h
  · next body =>
    split at h
    · cases h
    · next key afterKey string =>
      split at h
      · next afterColon colon =>
        split at h
        · split at h
          · cases h
          · next value read =>
            refine ⟨body, key, afterKey, afterColon, value, rfl, string, colon, read, ?_⟩
            split at h
            · next rest last =>
              rw [(eq_of_front h).2]
              exact .inl ⟨last, (eq_of_front h).1⟩
            · next rest comma =>
              dsimp only at h
              split at h
              · cases h
              · next more members =>
                cases h
                exact .inr ⟨rest, more, comma, members, rfl, rfl⟩
            · cases h
        · cases h
      · cases h
  · cases h

theorem leaves_separator {c : Char} (plain : Plain c) (h : skipSpace cs = c :: rest) :
    Leaves cs rest := by
  have space := leaves_skipSpace cs
  rw [h] at space
  exact space.trans (.plain plain (Leaves.refl rest))

theorem closes_of_skipSpace (h : skipSpace cs = '\x7d' :: rest) : Closes cs rest := by
  have space := leaves_skipSpace cs
  rwa [h] at space

theorem length_skipSpace_lt {c : Char} (h : skipSpace cs = c :: rest) :
    (skipSpace rest).length < cs.length := by
  have first := length_skipSpace_le cs
  have second := length_skipSpace_le rest
  rw [h, List.length_cons] at first
  omega

mutual

/-- A value is level, since its first character decides how it is read and what is read then is
level or lies in braces. -/
theorem leaves_readValue {cs : List Char} {v : Front Json cs} (h : readValue cs = .ok v) :
    Leaves cs v.rest := by
  rcases readValue_cases cs with ⟨rest, rfl⟩ | ⟨rest, rfl⟩ | ⟨rest, rfl⟩ | scalar
  · obtain ⟨s, string, -⟩ := readValue_quote h
    obtain ⟨used, parts, ends⟩ := ends_readString string
    exact ⟨'"' :: used, congrArg _ parts, .quote ends⟩
  · have : (skipSpace rest).length < ('\x7b' :: rest).length :=
      Nat.lt_succ_of_le (length_skipSpace_le rest)
    rcases readValue_brace h with ⟨empty, -⟩ | ⟨m, members, same, -⟩
    · exact (closes_of_skipSpace empty).braces
    · rw [same]
      exact Closes.braces ((leaves_skipSpace rest).trans (closes_readMembers members))
  · have : (skipSpace rest).length < ('[' :: rest).length :=
      Nat.lt_succ_of_le (length_skipSpace_le rest)
    rcases readValue_bracket h with ⟨empty, -⟩ | ⟨m, items, same, -⟩
    · exact .plain (by decide) (leaves_separator (by decide) empty)
    · rw [same]
      exact .plain (by decide) ((leaves_skipSpace rest).trans (leaves_readItems items))
  · exact leaves_readScalar (scalar ▸ h)
termination_by (cs.length, 0)

/-- Items up to their closing bracket are level. -/
theorem leaves_readItems {cs : List Char} {v : Front (List Json) cs} (h : readItems cs = .ok v) :
    Leaves cs v.rest := by
  obtain ⟨item, value, ⟨last, -⟩ | ⟨rest, more, comma, items, same, -⟩⟩ := exists_of_readItems h
  · exact (leaves_readValue value).trans (leaves_separator (by decide) last)
  · have : (skipSpace rest).length < cs.length :=
      Nat.lt_trans (length_skipSpace_lt comma) item.shorter
    rw [same]
    exact (leaves_readValue value).trans ((leaves_separator (by decide) comma).trans
      ((leaves_skipSpace rest).trans (leaves_readItems items)))
termination_by (cs.length, 1)

/-- Members are level up to their closing brace. -/
theorem closes_readMembers {cs : List Char} {v : Front Members cs}
    (h : readMembers cs = .ok v) : Closes cs v.rest := by
  obtain ⟨body, key, afterKey, afterColon, value, rfl, string, colon, read, ends⟩ :=
    exists_of_readMembers h
  obtain ⟨used, rfl, quote⟩ := ends_readString string
  have first : (skipSpace afterColon).length < ('"' :: (used ++ afterKey)).length := by
    have := length_skipSpace_lt colon
    simp only [List.length_cons, List.length_append]
    omega
  have front : Leaves ('"' :: (used ++ afterKey)) value.rest :=
    Leaves.trans ⟨'"' :: used, rfl, .quote quote⟩ ((leaves_separator (by decide) colon).trans
      ((leaves_skipSpace afterColon).trans (leaves_readValue read)))
  rcases ends with ⟨last, -⟩ | ⟨rest, more, comma, members, same, -⟩
  · exact front.trans (closes_of_skipSpace last)
  · have : (skipSpace rest).length < ('"' :: (used ++ afterKey)).length :=
      Nat.lt_trans (length_skipSpace_lt comma) (Nat.lt_trans value.shorter first)
    rw [same]
    exact front.trans ((leaves_separator (by decide) comma).trans
      ((leaves_skipSpace rest).trans (closes_readMembers members)))
termination_by (cs.length, 1)

end

/-- An object goes up to a brace, and what stands before the brace is level. -/
theorem closes_readValue {v : Front Json ('\x7b' :: rest)}
    (h : readValue ('\x7b' :: rest) = .ok v) : Closes rest v.rest := by
  rcases readValue_brace h with ⟨empty, -⟩ | ⟨m, members, same, -⟩
  · exact closes_of_skipSpace empty
  · rw [same]
    exact (leaves_skipSpace rest).trans (closes_readMembers members)

theorem readChars_eq_ok {cs : List Char} {value : Json} (h : readChars cs = .ok value) :
    ∃ v, readValue (skipSpace cs) = .ok v ∧ v.value = value ∧ skipSpace v.rest = [] := by
  unfold readChars at h
  dsimp only at h
  split at h
  · cases h
  · next v read =>
    split at h
    · next blank =>
      cases h
      exact ⟨v, read, rfl, List.isEmpty_iff.1 blank⟩
    · cases h

end Values

end WorkflowRepair.Extraction
