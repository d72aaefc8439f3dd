import WorkflowRepair.Proofs.Json.Keys
import WorkflowRepair.Proofs.Json.Scalars
import WorkflowRepair.Proofs.Text.Half

/-!
The text of a document read back. A string ends with its quote and a comma or a closing mark ends
every other value, so each part of the text is read on its own; by induction on the document the
reader gives it back, when its keys are distinct and its numbers read back on their own.
-/

namespace WorkflowRepair

/-- Members with new keys are added behind the others. -/
theorem Members.update_eq_append {members added : Members}
    (distinct : ((members ++ added).map Prod.fst).Nodup) :
    update members added = members ++ added := by
  induction added generalizing members with
  | nil => simp [update]
  | cons m added ih =>
    have fresh : has members m.1 = false := by
      rw [has_eq_false_iff]
      rw [List.map_append, List.map_cons] at distinct
      exact fun mem => List.disjoint_of_nodup_append distinct mem (List.mem_cons_self ..)
    have next : set members m.1 m.2 = members ++ [m] := by
      rw [set, fresh]
      rfl
    rw [← List.singleton_append, ← List.append_assoc] at distinct
    calc
      update members (m :: added) = update (members ++ [m]) added := by rw [← next]; rfl
      _ = members ++ [m] ++ added := ih distinct
      _ = members ++ m :: added := by simp

namespace Json

open Text

/-! ### Strings -/

section Strings

variable {opening : Nat} {body rest text : List Char}

theorem shortEscapes_read :
    ∀ pair ∈ shortEscapes, pair.2 ≠ 'u' ∧ simpleEscape? pair.2 = some pair.1 := by
  decide

theorem hexPadded_control : ∀ n < 0x20, hexPadded 4 n =
    ['0', '0', Nat.digitChar (n / 16), Nat.digitChar (n % 16)] := by
  decide

theorem hexDigit?_digitChar : ∀ n < 16, hexDigit? (Nat.digitChar n) = some n := by
  decide

theorem readUnit_control {n : Nat} (control : n < 0x20) (filled : rest ≠ []) :
    readUnit (hexPadded 4 n ++ rest) = .ok (Char.ofNat n, rest) := by
  obtain ⟨c, rest, rfl⟩ := List.exists_cons_of_ne_nil filled
  have high := hexDigit?_digitChar (n / 16) (by omega)
  have low := hexDigit?_digitChar (n % 16) (Nat.mod_lt n (by decide))
  have zero : hexDigit? '0' = some 0 := by decide
  have quad : hexQuad? (hexPadded 4 n ++ c :: rest) = some (n, c :: rest) := by
    rw [hexPadded_control n control]
    simp only [List.cons_append, List.nil_append, hexQuad?, zero, high, low, Option.bind_eq_bind,
      Option.bind_some, Option.some.injEq, Prod.mk.injEq, and_true]
    omega
  have single : ¬(0xD800 ≤ n ∧ n ≤ 0xDBFF) := by omega
  have code : charOf n = Char.ofNat n := by
    refine charOf_of_not_half (eq_false_of_ne_true fun half => ?_)
    have range := isHalfCode_iff.1 half
    omega
  rw [readUnit, quad]
  simp only [if_neg single, code]

theorem readString_quote : readString opening ('"' :: rest) = .ok ([], rest) := by
  rw [readString.eq_def]
  exact if_pos rfl

theorem readString_plain {c : Char} (quote : c ≠ '"') (backslash : c ≠ '\\')
    (visible : 0x20 ≤ c.toNat) (h : readString opening body = .ok (text, rest)) :
    readString opening (c :: body) = .ok (c :: text, rest) := by
  rw [readString.eq_def]
  simp only [if_neg quote, if_neg backslash, if_neg (Nat.not_lt.2 visible), h]

theorem readString_short {c letter : Char} (other : letter ≠ 'u')
    (short : simpleEscape? letter = some c) (h : readString opening body = .ok (text, rest)) :
    readString opening ('\\' :: letter :: body) = .ok (c :: text, rest) := by
  rw [readString, if_neg (by decide), if_pos rfl]
  simp only [if_neg other, short, h]

theorem readString_coded {c : Char} {code : List Char} (unit : readUnit code = .ok (c, body))
    (shorter : body.length < code.length + 1) (h : readString opening body = .ok (text, rest)) :
    readString opening ('\\' :: 'u' :: code) = .ok (c :: text, rest) := by
  rw [readString, if_neg (by decide), if_pos rfl]
  simp only [if_pos, unit, shorter, h]

/-- A character that was written is read again. -/
theorem readString_escapedChar (c : Char) (filled : body ≠ [])
    (h : readString opening body = .ok (text, rest)) :
    readString opening (escapedChar c ++ body) = .ok (c :: text, rest) := by
  rcases escapedChar_cases c with ⟨letter, mem, short⟩ | ⟨control, coded⟩ |
    ⟨visible, quote, backslash, plain⟩
  · obtain ⟨other, read⟩ := shortEscapes_read _ mem
    rw [short]
    exact readString_short other read h
  · have unit := readUnit_control control filled
    rw [Char.ofNat_toNat] at unit
    rw [coded, List.cons_append, List.cons_append]
    exact readString_coded unit (by simp only [List.length_append]; omega) h
  · rw [plain]
    exact readString_plain quote backslash visible h

/-- A string that was written is read again up to its closing quote. -/
theorem readString_flatMap (cs : List Char) :
    readString opening (cs.flatMap escapedChar ++ '"' :: rest) = .ok (cs, rest) := by
  induction cs with
  | nil => exact readString_quote
  | cons c cs ih =>
    rw [List.flatMap_cons, List.append_assoc]
    exact readString_escapedChar c (by simp) ih

end Strings

/-! ### Collections -/

section Collections

variable {cs rest more : List Char} {item value : Json} {items : List Json} {members : Members}

theorem gives_last_item (h : Gives (readValue cs) item (']' :: rest)) :
    Gives (readItems cs) [item] rest := by
  obtain ⟨shorter, read⟩ := h
  have mark : skipSpace (']' :: rest) = ']' :: rest := skipSpace_cons rfl
  rw [readItems.eq_def, read]
  dsimp only
  split
  · next found =>
    cases found.symm.trans mark
    exact front_gives _ (Nat.lt_of_succ_lt shorter)
  · next found => cases found.symm.trans mark
  · next other _ => exact absurd mark (other rest)

theorem gives_more_items (h : Gives (readValue cs) item (',' :: more))
    (later : Gives (readItems (skipSpace more)) items rest) :
    Gives (readItems cs) (item :: items) rest := by
  obtain ⟨shorter, read⟩ := h
  obtain ⟨shorter', read'⟩ := later
  have mark : skipSpace (',' :: more) = ',' :: more := skipSpace_cons rfl
  rw [readItems.eq_def, read]
  dsimp only
  split
  · next found => cases found.symm.trans mark
  · next found =>
    cases found.symm.trans mark
    rw [read']
    exact ⟨_, rfl⟩
  · next other => exact absurd mark (other more)

theorem gives_last_member {key : String} {body afterColon : List Char}
    (string : readString (body.length + 1) body = .ok (key.toList, ':' :: afterColon))
    (shorter : afterColon.length ≤ body.length)
    (h : Gives (readValue (skipSpace afterColon)) value ('\x7d' :: rest)) :
    Gives (readMembers ('"' :: body)) [(key, value)] rest := by
  obtain ⟨shorter', read⟩ := h
  have colon : skipSpace (':' :: afterColon) = ':' :: afterColon := skipSpace_cons rfl
  have mark : skipSpace ('\x7d' :: rest) = '\x7d' :: rest := skipSpace_cons rfl
  have within : (skipSpace afterColon).length < body.length + 1 :=
    Nat.lt_succ_of_le ((length_skipSpace_le afterColon).trans shorter)
  rw [readMembers.eq_def]
  simp only [string, colon]
  rw [dif_pos within, read]
  dsimp only
  split
  · next found =>
    cases found.symm.trans mark
    rw [String.ofList_toList]
    exact front_gives _ (by simp only [List.length_cons] at shorter' ⊢; omega)
  · next found => cases found.symm.trans mark
  · next other _ => exact absurd mark (other rest)

theorem gives_more_members {key : String} {body afterColon : List Char}
    (string : readString (body.length + 1) body = .ok (key.toList, ':' :: afterColon))
    (shorter : afterColon.length ≤ body.length)
    (h : Gives (readValue (skipSpace afterColon)) value (',' :: more))
    (later : Gives (readMembers (skipSpace more)) members rest) :
    Gives (readMembers ('"' :: body)) ((key, value) :: members) rest := by
  obtain ⟨shorter', read⟩ := h
  obtain ⟨shorter'', read'⟩ := later
  have colon : skipSpace (':' :: afterColon) = ':' :: afterColon := skipSpace_cons rfl
  have mark : skipSpace (',' :: more) = ',' :: more := skipSpace_cons rfl
  have within : (skipSpace afterColon).length < body.length + 1 :=
    Nat.lt_succ_of_le ((length_skipSpace_le afterColon).trans shorter)
  rw [readMembers.eq_def]
  simp only [string, colon]
  rw [dif_pos within, read]
  dsimp only
  split
  · next found => cases found.symm.trans mark
  · next found =>
    cases found.symm.trans mark
    rw [read', String.ofList_toList]
    exact ⟨_, rfl⟩
  · next other => exact absurd mark (other more)

theorem gives_string (s : String) :
    Gives (readValue (renderString s ++ rest)) (.str s) rest := by
  have string (opening : Nat) : readString opening (s.toList.flatMap escapedChar ++ '"' :: rest) =
      .ok (s.toList, rest) := readString_flatMap s.toList
  have text : renderString s ++ rest = '"' :: (s.toList.flatMap escapedChar ++ '"' :: rest) := by
    simp [renderString]
  rw [text, readValue, string]
  dsimp only
  rw [String.ofList_toList]
  exact front_gives _ (by simp only [List.length_cons, List.length_append]; omega)

theorem gives_no_items : Gives (readValue ('[' :: ']' :: rest)) (.arr []) rest := by
  have mark : skipSpace (']' :: rest) = ']' :: rest := skipSpace_cons rfl
  rw [readValue]
  split
  · next found =>
    cases found.symm.trans mark
    exact front_gives _ (by simp only [List.length_cons]; omega)
  · next other => exact absurd mark (other rest)

theorem gives_items (h : Gives (readItems (skipSpace cs)) items rest)
    (filled : ∀ ds, skipSpace cs ≠ ']' :: ds) :
    Gives (readValue ('[' :: cs)) (.arr items) rest := by
  obtain ⟨shorter, read⟩ := h
  rw [readValue]
  split
  · next found => exact absurd found (filled _)
  · rw [read]
    exact ⟨_, rfl⟩

theorem gives_no_members : Gives (readValue ('\x7b' :: '\x7d' :: rest)) (.obj []) rest := by
  have mark : skipSpace ('\x7d' :: rest) = '\x7d' :: rest := skipSpace_cons rfl
  rw [readValue]
  split
  · next found =>
    cases found.symm.trans mark
    exact front_gives _ (by simp only [List.length_cons]; omega)
  · next other => exact absurd mark (other rest)

theorem gives_members (h : Gives (readMembers (skipSpace cs)) members rest)
    (filled : ∀ ds, skipSpace cs ≠ '\x7d' :: ds) :
    Gives (readValue ('\x7b' :: cs)) (.obj (Members.update [] members)) rest := by
  obtain ⟨shorter, read⟩ := h
  rw [readValue]
  split
  · next found => exact absurd found (filled _)
  · rw [read]
    exact ⟨_, rfl⟩

end Collections

/-! ### Documents -/

/-- A document with distinct keys in each object, whose integers are within the limit and whose
doubles with a finite value read back. -/
inductive Restorable : Json → Prop
  | null : Restorable .null
  | bool (b : Bool) : Restorable (.bool b)
  | int {n : Int} (short : n.natAbs < 10 ^ digitLimit) : Restorable (.num (.int n))
  | double {d : Double} (back : Number.isFinite (.double d) = true →
      read d.render = .ok (.num (.double d))) : Restorable (.num (.double d))
  | str (s : String) : Restorable (.str s)
  | arr {items : List Json} (each : ∀ item ∈ items, Restorable item) : Restorable (.arr items)
  | obj {members : Members} (distinct : (members.map Prod.fst).Nodup)
      (each : ∀ m ∈ members, Restorable m.2) : Restorable (.obj members)

section Documents

/-- The text of a document is read as the document, whatever ends it. -/
def Returns (j : Json) : Prop :=
  ∀ rest, Ended rest → Gives (readValue (renderChars j ++ rest)) j rest

variable {item value : Json} {items : List Json} {members : Members} {rest : List Char}

theorem Returns.solid (h : Returns item) (ended : Ended rest) :
    skipSpace (renderChars item ++ rest) = renderChars item ++ rest :=
  (solid_of_gives (h rest ended)).1

theorem ended_comma : Ended (',' :: rest) := by
  rintro c ⟨⟩
  exact .inl rfl

theorem ended_bracket : Ended (']' :: rest) := by
  rintro c ⟨⟩
  exact .inr (.inl rfl)

theorem ended_brace : Ended ('\x7d' :: rest) := by
  rintro c ⟨⟩
  exact .inr (.inr rfl)

theorem ended_renderItems (items : List Json) : Ended (renderItems items ++ ']' :: rest) := by
  cases items with
  | nil => exact ended_bracket
  | cons item items => exact ended_comma

theorem ended_renderMembers (members : Members) :
    Ended (renderMembers members ++ '\x7d' :: rest) := by
  cases members with
  | nil => exact ended_brace
  | cons m members => exact ended_comma

theorem gives_renderItems (h : Returns item) (later : ∀ item ∈ items, Returns item) :
    Gives (readItems (renderChars item ++ (renderItems items ++ ']' :: rest)))
      (item :: items) rest := by
  induction items generalizing item with
  | nil => exact gives_last_item (h _ ended_bracket)
  | cons next items ih =>
    obtain ⟨here, later⟩ := List.forall_mem_cons.1 later
    have text : renderItems (next :: items) ++ ']' :: rest =
        ',' :: ' ' :: (renderChars next ++ (renderItems items ++ ']' :: rest)) := by
      simp [renderItems]
    rw [text]
    refine gives_more_items (h _ ended_comma) ?_
    rw [skipSpace_blank, here.solid (ended_renderItems items)]
    exact ih here later

theorem Returns.arr (each : ∀ item ∈ items, Returns item) : Returns (.arr items) := by
  intro rest _
  cases items with
  | nil => exact gives_no_items
  | cons item items =>
    obtain ⟨here, later⟩ := List.forall_mem_cons.1 each
    have text : renderChars (.arr (item :: items)) ++ rest =
        '[' :: (renderChars item ++ (renderItems items ++ ']' :: rest)) := by
      simp [renderChars]
    have ended : Ended (renderItems items ++ ']' :: rest) := ended_renderItems items
    obtain ⟨space, filled⟩ := solid_of_gives (here _ ended)
    rw [text]
    refine gives_items ?_ ?_
    · rw [space]
      exact gives_renderItems here later
    · rwa [space]

/-- The text of members behind the colon of the first. -/
def behindColon (value : Json) (members : Members) (rest : List Char) : List Char :=
  ' ' :: (renderChars value ++ (renderMembers members ++ '\x7d' :: rest))

/-- The text of members behind the opening quote of the first key. -/
def behindQuote (key : String) (value : Json) (members : Members) (rest : List Char) : List Char :=
  key.toList.flatMap escapedChar ++ '"' :: ':' :: behindColon value members rest

theorem length_behindColon_le (key : String) (value : Json) (members : Members)
    (rest : List Char) :
    (behindColon value members rest).length ≤ (behindQuote key value members rest).length := by
  simp only [behindQuote, List.length_append, List.length_cons]
  omega

/-- Behind the colon the first value is read. -/
theorem Returns.behindColon (h : Returns value) (members : Members) (rest : List Char) :
    Gives (readValue (skipSpace (behindColon value members rest))) value
      (renderMembers members ++ '\x7d' :: rest) := by
  rw [Json.behindColon, skipSpace_blank, h.solid (ended_renderMembers members)]
  exact h _ (ended_renderMembers members)

theorem gives_renderMembers {key : String} (h : Returns value)
    (later : ∀ m ∈ members, Returns m.2) :
    Gives (readMembers ('"' :: behindQuote key value members rest)) ((key, value) :: members)
      rest := by
  induction members generalizing key value with
  | nil =>
    exact gives_last_member (readString_flatMap key.toList) (length_behindColon_le ..)
      (h.behindColon [] rest)
  | cons next members ih =>
    obtain ⟨here, later⟩ := List.forall_mem_cons.1 later
    have text : renderMembers (next :: members) ++ '\x7d' :: rest =
        ',' :: ' ' :: '"' :: behindQuote next.1 next.2 members rest := by
      simp [renderMembers, renderString, behindQuote, Json.behindColon]
    have first := h.behindColon (next :: members) rest
    rw [text] at first
    refine gives_more_members (readString_flatMap key.toList) (length_behindColon_le ..) first ?_
    rw [skipSpace_blank, skipSpace_cons rfl]
    exact ih here later

theorem Returns.obj (distinct : (members.map Prod.fst).Nodup) (each : ∀ m ∈ members, Returns m.2) :
    Returns (.obj members) := by
  intro rest _
  cases members with
  | nil => exact gives_no_members
  | cons m members =>
    obtain ⟨here, later⟩ := List.forall_mem_cons.1 each
    have text : renderChars (.obj (m :: members)) ++ rest =
        '\x7b' :: '"' :: behindQuote m.1 m.2 members rest := by
      simp [renderChars, renderString, behindQuote, Json.behindColon]
    have space : skipSpace ('"' :: behindQuote m.1 m.2 members rest) =
        '"' :: behindQuote m.1 m.2 members rest := skipSpace_cons rfl
    have same : Members.update [] (m :: members) = m :: members :=
      Members.update_eq_append distinct
    have read : Gives (readMembers (skipSpace ('"' :: behindQuote m.1 m.2 members rest)))
        (m :: members) rest := by
      rw [space]
      exact gives_renderMembers here later
    rw [text, ← same]
    exact gives_members read (by rw [space]; exact nofun)

theorem Restorable.returns {j : Json} (h : Restorable j) : Returns j := by
  induction h with
  | null => exact fun rest _ => gives_null
  | bool b => exact fun rest _ => gives_bool b
  | int short => exact fun rest => gives_num (read_render_int short)
  | @double d back =>
    cases finite : Number.isFinite (.double d) with
    | true => exact fun rest => gives_num (back finite)
    | false => exact fun rest => gives_num (read_render_word finite)
  | str s => exact fun rest _ => gives_string s
  | arr _ ih => exact .arr ih
  | obj distinct _ ih => exact .obj distinct ih

/-- The text of a document is read as the document. -/
theorem read_render {j : Json} (h : Restorable j) : read j.render = .ok j := by
  have whole := h.returns [] nofun
  rw [List.append_nil] at whole
  rw [read, render, String.toList_ofList]
  exact readChars_of_gives whole

end Documents

end Json

end WorkflowRepair
