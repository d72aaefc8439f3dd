import Mathlib.Data.List.TakeWhile
import WorkflowRepair.Proofs.Extraction.Reading
import WorkflowRepair.Proofs.Json.SingleLine

/-!
Words and numbers in the text of a document. What stands behind a value ends it, so a scalar is read
in the same way with more behind; a number that reads back from its own text does so in every text,
and the integers within the limit of digits do.
-/

namespace WorkflowRepair.Json

open Text

/-- A character that ends a value. -/
def Ending (c : Char) : Prop := c = ',' ∨ c = ']' ∨ c = '\x7d'

/-- The characters behind a value begin with what ends it, if there are any. -/
def Ended (rest : List Char) : Prop := ∀ c ∈ rest.head?, Ending c

theorem Ended.cases {rest : List Char} (ended : Ended rest) :
    rest = [] ∨ ∃ more, rest = ',' :: more ∨ rest = ']' :: more ∨ rest = '\x7d' :: more := by
  cases rest with
  | nil => exact .inl rfl
  | cons c more => rcases ended c rfl with rfl | rfl | rfl <;> simp

/-- A reading takes the value and leaves the rest. -/
def Gives {α : Type} {cs : List Char} (reading : Reading α cs) (value : α) (rest : List Char) :
    Prop :=
  ∃ shorter, reading = .ok ⟨value, rest, shorter⟩

theorem front_gives {α : Type} {cs rest : List Char} (value : α)
    (shorter : rest.length < cs.length) : Gives (front cs value rest) value rest :=
  ⟨shorter, dif_pos shorter⟩

/-! ### More behind the end -/

section Behind

variable {cs rest : List Char} {p : Char → Bool}

/-- No character that ends a value has the property. -/
def NotAtEnd (p : Char → Bool) : Prop := ∀ c, Ending c → p c = false

theorem takeWhile_append_of_ended (h : NotAtEnd p) (ended : Ended rest) :
    (cs ++ rest).takeWhile p = cs.takeWhile p := by
  induction cs with
  | nil =>
    cases rest with
    | nil => rfl
    | cons c rest => exact List.takeWhile_cons_of_neg (by simp [h c (ended c rfl)])
  | cons c cs ih => simp only [List.cons_append, List.takeWhile_cons, ih]

theorem dropWhile_append_of_ended (h : NotAtEnd p) (ended : Ended rest) :
    (cs ++ rest).dropWhile p = cs.dropWhile p ++ rest := by
  induction cs with
  | nil =>
    cases rest with
    | nil => rfl
    | cons c rest => exact List.dropWhile_cons_of_neg (by simp [h c (ended c rfl)])
  | cons c cs ih =>
    simp only [List.cons_append, List.dropWhile_cons, ih]
    split <;> rfl

theorem isDigit_notAtEnd : NotAtEnd isDigit := by
  rintro c (rfl | rfl | rfl) <;> rfl

/-- What was read and what is left, with the rest behind it. -/
def followedBy {α : Type} (rest : List Char) (read : α × List Char) : α × List Char :=
  (read.1, read.2 ++ rest)

theorem readFraction_append (ended : Ended rest) :
    readFraction (cs ++ rest) = (readFraction cs).map (followedBy rest) := by
  cases cs with
  | nil => rcases ended.cases with rfl | ⟨more, rfl | rfl | rfl⟩ <;> rfl
  | cons c cs =>
    by_cases point : c = '.'
    · subst point
      simp only [readFraction, List.cons_append,
        takeWhile_append_of_ended isDigit_notAtEnd ended,
        dropWhile_append_of_ended isDigit_notAtEnd ended]
      split <;> rfl
    · have none (ds : List Char) : readFraction (c :: ds) = none := by simp [readFraction, point]
      rw [List.cons_append, none, none]
      rfl

/-- The digits of an exponent whose sign has been read. -/
def exponentDigits (negative : Bool) (cs : List Char) : Option (Int × List Char) :=
  let digits := cs.takeWhile isDigit
  if digits.isEmpty then none
  else
    let n : Int := digitsValue digits
    some (if negative then -n else n, cs.dropWhile isDigit)

theorem exponentDigits_append (ended : Ended rest) (negative : Bool) :
    exponentDigits negative (cs ++ rest) =
      (exponentDigits negative cs).map (followedBy rest) := by
  simp only [exponentDigits, takeWhile_append_of_ended isDigit_notAtEnd ended,
    dropWhile_append_of_ended isDigit_notAtEnd ended]
  split <;> rfl

theorem readExponent_unsigned {c d : Char} (mark : c = 'e' ∨ c = 'E') (minus : d ≠ '-')
    (plus : d ≠ '+') : readExponent (c :: d :: cs) = exponentDigits false (d :: cs) := by
  simp only [readExponent, if_pos mark]
  split
  · next same => exact absurd (List.cons.inj same).1 minus
  · next same => exact absurd (List.cons.inj same).1 plus
  · rfl

theorem readExponent_append (ended : Ended rest) :
    readExponent (cs ++ rest) = (readExponent cs).map (followedBy rest) := by
  match cs with
  | [] => rcases ended.cases with rfl | ⟨more, rfl | rfl | rfl⟩ <;> rfl
  | c :: cs =>
    by_cases mark : c = 'e' ∨ c = 'E'
    swap
    · simp only [readExponent, List.cons_append, if_neg mark]
      rfl
    match cs with
    | [] =>
      simp only [readExponent, List.cons_append, if_pos mark]
      rcases ended.cases with rfl | ⟨more, rfl | rfl | rfl⟩ <;> rfl
    | d :: cs =>
      have signed (sign : Char) (negative : Bool)
          (here : ∀ ds, readExponent (c :: sign :: ds) = exponentDigits negative ds) :
          readExponent (c :: sign :: (cs ++ rest)) =
            (readExponent (c :: sign :: cs)).map (followedBy rest) := by
        rw [here, here, exponentDigits_append ended]
      by_cases minus : d = '-'
      · subst minus
        exact signed '-' true fun ds => by simp only [readExponent, if_pos mark, exponentDigits]
      by_cases plus : d = '+'
      · subst plus
        exact signed '+' false fun ds => by simp only [readExponent, if_pos mark, exponentDigits]
      rw [readExponent_unsigned mark minus plus, ← exponentDigits_append ended]
      exact readExponent_unsigned mark minus plus

theorem wholeDigits_append (ended : Ended rest) :
    wholeDigits (cs ++ rest) = wholeDigits cs := by
  cases cs with
  | nil => rcases ended.cases with rfl | ⟨more, rfl | rfl | rfl⟩ <;> rfl
  | cons c cs =>
    simp only [List.cons_append, wholeDigits, takeWhile_append_of_ended isDigit_notAtEnd ended]

theorem wholeDigits_isPrefix (cs : List Char) : wholeDigits cs <+: cs := by
  cases cs with
  | nil => exact List.nil_prefix
  | cons c cs =>
    unfold wholeDigits
    dsimp only
    split
    · exact List.cons_prefix_cons.2 ⟨rfl, List.nil_prefix⟩
    · split
      · exact List.cons_prefix_cons.2 ⟨rfl, List.takeWhile_prefix isDigit⟩
      · exact List.nil_prefix

theorem readUnsigned_append (ended : Ended rest) (negative : Bool) :
    readUnsigned negative (cs ++ rest) =
      (readUnsigned negative cs).map (Option.map (followedBy rest)) := by
  have whole : (cs ++ rest).drop (wholeDigits cs).length =
      cs.drop (wholeDigits cs).length ++ rest :=
    List.drop_append_of_le_length (wholeDigits_isPrefix cs).length_le
  unfold readUnsigned
  dsimp only
  rw [wholeDigits_append ended, whole, readFraction_append ended]
  generalize wholeDigits cs = digits
  generalize cs.drop digits.length = behind
  by_cases none : digits.isEmpty = true
  · rw [if_pos none, if_pos none]
    rfl
  rw [if_neg none, if_neg none]
  cases readFraction behind with
  | none =>
    have power : readExponent (behind ++ rest) = (readExponent behind).map (followedBy rest) :=
      readExponent_append ended
    simp only [Option.map_none, Option.getD_none, power]
    cases readExponent behind with
    | none =>
      simp only [Option.map_none]
      split
      · split <;> rfl
      · rfl
    | some exponent => rfl
  | some fraction =>
    have power : readExponent (fraction.2 ++ rest) =
        (readExponent fraction.2).map (followedBy rest) := readExponent_append ended
    simp only [Option.map_some, Option.getD_some, followedBy, power]
    cases readExponent fraction.2 with
    | none => rfl
    | some exponent => rfl

/-- A word at the front does not go on behind the characters, since what ends them is in no word. -/
theorem afterWord?_append (ended : Ended rest) {word : String}
    (plain : ∀ c ∈ word.toList, ¬Ending c) :
    afterWord? word (cs ++ rest) = (afterWord? word cs).map (· ++ rest) := by
  have same : word.toList <+: cs ++ rest ↔ word.toList <+: cs := by
    refine ⟨fun long => ?_, fun short => short.trans (List.prefix_append cs rest)⟩
    have front := List.prefix_append cs rest
    rcases List.prefix_or_prefix_of_prefix long front with short | ⟨more, parts⟩
    · exact short
    · rw [← parts, List.prefix_append_right_inj] at long
      cases more with
      | nil => exact ⟨[], by simpa using parts.symm⟩
      | cons c more =>
        obtain ⟨behind, rfl⟩ := long
        exact absurd (ended c rfl) (plain c (by simp [← parts]))
  unfold afterWord?
  simp only [List.isPrefixOf_iff_prefix, same]
  split
  · next front =>
    rw [← String.length_toList, List.drop_append_of_le_length front.length_le]
    rfl
  · rfl

/-- The word at the front of the characters, with its value and what follows it. -/
def word? (cs : List Char) (words : List (String × Json)) : Option (Json × List Char) :=
  words.findSome? fun (word, value) => (afterWord? word cs).map ((value, ·))

theorem word?_append (ended : Ended rest) {words : List (String × Json)}
    (plain : ∀ entry ∈ words, ∀ c ∈ entry.1.toList, ¬Ending c) :
    word? (cs ++ rest) words = (word? cs words).map (followedBy rest) := by
  induction words with
  | nil => rfl
  | cons entry words ih =>
    obtain ⟨here, later⟩ := List.forall_mem_cons.1 plain
    simp only [word?, List.findSome?_cons, afterWord?_append ended here]
    cases afterWord? entry.1 cs with
    | none => exact ih later
    | some behind => rfl

theorem plain_words : ∀ entry ∈ wordValues, ∀ c ∈ entry.1.toList, ¬Ending c := by
  simp [wordValues, Ending]

/-- A number whose sign has been read from the characters. -/
def readSigned (cs : List Char) (negative : Bool) (body : List Char) : Reading Json cs :=
  match readUnsigned negative body with
  | .error failure => .error failure
  | .ok none => failAt cs
  | .ok (some (n, rest)) => front cs (.num n) rest

theorem readScalar_word {value : Json} (word : word? cs wordValues = some (value, rest)) :
    readScalar cs = front cs value rest := by
  unfold word? at word
  unfold readScalar
  rw [word]

theorem readScalar_minus (none : word? ('-' :: cs) wordValues = none) :
    readScalar ('-' :: cs) = readSigned ('-' :: cs) true cs := by
  unfold word? at none
  rw [readScalar, none]
  rfl

theorem readScalar_plain {c : Char} (minus : c ≠ '-') (none : word? (c :: cs) wordValues = none) :
    readScalar (c :: cs) = readSigned (c :: cs) false (c :: cs) := by
  unfold word? at none
  rw [readScalar, none]
  · rfl
  · exact fun _ same => minus (List.cons.inj same).1

theorem readSigned_append (ended : Ended rest) {negative : Bool} {body left : List Char}
    {value : Json} (h : Gives (readSigned cs negative body) value left) :
    Gives (readSigned (cs ++ rest) negative (body ++ rest)) value (left ++ rest) := by
  obtain ⟨shorter, read⟩ := h
  have longer : (left ++ rest).length < (cs ++ rest).length := by simpa using shorter
  unfold readSigned at read ⊢
  rw [readUnsigned_append ended]
  match readUnsigned negative body, read with
  | .ok (some (n, behind)), read =>
    obtain ⟨rfl, rfl⟩ := Extraction.eq_of_front read
    exact front_gives _ longer

/-- A word or a number is read in the same way with more behind its end. -/
theorem readScalar_append (ended : Ended rest) {value : Json} {left : List Char}
    (h : Gives (readScalar cs) value left) :
    Gives (readScalar (cs ++ rest)) value (left ++ rest) := by
  have words : word? (cs ++ rest) wordValues = (word? cs wordValues).map (followedBy rest) :=
    word?_append ended plain_words
  obtain ⟨shorter, read⟩ := h
  have longer : (left ++ rest).length < (cs ++ rest).length := by simpa using shorter
  cases found : word? cs wordValues with
  | some entry =>
    rw [found] at words
    rw [readScalar_word found] at read
    obtain ⟨rfl, rfl⟩ := Extraction.eq_of_front read
    rw [readScalar_word words]
    exact front_gives _ longer
  | none =>
    rw [found] at words
    obtain ⟨c, cs, rfl⟩ := List.exists_cons_of_ne_nil
      (List.ne_nil_of_length_pos (Nat.zero_lt_of_lt shorter))
    by_cases minus : c = '-'
    · subst minus
      rw [readScalar_minus found] at read
      rw [List.cons_append] at words ⊢
      rw [readScalar_minus words]
      exact readSigned_append ended ⟨shorter, read⟩
    · rw [readScalar_plain minus found] at read
      rw [List.cons_append] at words ⊢
      rw [readScalar_plain minus words]
      exact readSigned_append ended ⟨shorter, read⟩

end Behind

/-! ### The front of a value -/

section Front

variable {cs rest : List Char} {value : Json}

theorem skipSpace_cons {c : Char} (solid : isSpace c = false) :
    skipSpace (c :: rest) = c :: rest :=
  List.dropWhile_cons_of_neg (by simp [solid])

theorem skipSpace_blank : skipSpace (' ' :: rest) = skipSpace rest := rfl

theorem readValue_scalar {c : Char} (quote : c ≠ '"') (brace : c ≠ '\x7b') (bracket : c ≠ '[') :
    readValue (c :: cs) = readScalar (c :: cs) := by
  rcases Extraction.readValue_cases (c :: cs) with ⟨_, same⟩ | ⟨_, same⟩ | ⟨_, same⟩ | scalar
  · exact absurd (List.cons.inj same).1 quote
  · exact absurd (List.cons.inj same).1 brace
  · exact absurd (List.cons.inj same).1 bracket
  · exact scalar

theorem not_gives_idle {c : Char} (idle : isSpace c = true ∨ c = ']') :
    ¬Gives (readValue (c :: cs)) value rest := by
  have marks : c = ' ' ∨ c = '\t' ∨ c = '\n' ∨ c = '\r' ∨ c = ']' := by
    simpa [isSpace, or_assoc] using idle
  rintro ⟨shorter, read⟩
  have fails : readValue (c :: cs) = failAt (c :: cs) := by
    rcases marks with rfl | rfl | rfl | rfl | rfl
    all_goals
      rw [readValue_scalar (by decide) (by decide) (by decide),
        readScalar_plain (by decide) (by simp [word?, wordValues, afterWord?])]
      rfl
  rw [fails] at read
  cases read

/-- No value begins with space or a closing bracket. -/
theorem solid_of_gives (h : Gives (readValue cs) value rest) :
    skipSpace cs = cs ∧ ∀ ds, cs ≠ ']' :: ds := by
  cases cs with
  | nil => exact ⟨rfl, nofun⟩
  | cons c cs =>
    constructor
    · refine skipSpace_cons (Bool.eq_false_iff.2 fun space => ?_)
      exact not_gives_idle (.inl space) h
    · intro ds same
      exact not_gives_idle (.inr (List.cons.inj same).1) h

theorem readChars_of_gives (h : Gives (readValue cs) value []) : readChars cs = .ok value := by
  have space := (solid_of_gives h).1
  rw [← space] at h
  obtain ⟨shorter, read⟩ := h
  rw [readChars, read]
  rfl

theorem length_lt_of_word? (h : word? cs wordValues = some (value, rest)) :
    rest.length < cs.length := by
  obtain ⟨entry, mem, word⟩ := List.exists_of_findSome?_eq_some h
  obtain ⟨behind, after, same⟩ := Option.map_eq_some_iff.1 word
  cases same
  have filled := (by decide : ∀ entry ∈ wordValues, 0 < entry.1.length) entry mem
  unfold afterWord? at after
  split at after
  · next front =>
    cases after
    have long := (List.isPrefixOf_iff_prefix.1 front).length_le
    rw [String.length_toList] at long
    rw [List.length_drop]
    omega
  · cases after

theorem gives_word {c : Char} (quote : c ≠ '"') (brace : c ≠ '\x7b') (bracket : c ≠ '[')
    (word : word? (c :: cs) wordValues = some (value, rest)) :
    Gives (readValue (c :: cs)) value rest := by
  rw [readValue_scalar quote brace bracket, readScalar_word word]
  exact front_gives value (length_lt_of_word? word)

theorem gives_null : Gives (readValue (renderChars .null ++ rest)) .null rest := by
  have word : word? ('n' :: 'u' :: 'l' :: 'l' :: rest) wordValues = some (.null, rest) := by
    simp [word?, wordValues, afterWord?]
    rfl
  exact gives_word (by decide) (by decide) (by decide) word

theorem gives_bool (b : Bool) :
    Gives (readValue (renderChars (.bool b) ++ rest)) (.bool b) rest := by
  have yes : word? ('t' :: 'r' :: 'u' :: 'e' :: rest) wordValues = some (.bool true, rest) := by
    simp [word?, wordValues, afterWord?]
    rfl
  have no : word? ('f' :: 'a' :: 'l' :: 's' :: 'e' :: rest) wordValues =
      some (.bool false, rest) := by
    simp [word?, wordValues, afterWord?]
    rfl
  cases b with
  | true => exact gives_word (by decide) (by decide) (by decide) yes
  | false => exact gives_word (by decide) (by decide) (by decide) no

end Front

/-! ### Numbers -/

section Numbers

variable {cs rest : List Char} {value : Json}

/-- What is read as a number does not begin with the mark of a string or of a collection. -/
theorem unmarked_of_num {c : Char} {n : Number} (h : Gives (readValue (c :: cs)) (.num n) rest) :
    c ≠ '"' ∧ c ≠ '\x7b' ∧ c ≠ '[' := by
  obtain ⟨shorter, read⟩ := h
  refine ⟨?_, ?_, ?_⟩
  · rintro rfl
    rw [readValue] at read
    split at read
    · cases read
    · cases (Extraction.eq_of_front read).1
  · rintro rfl
    rw [readValue] at read
    split at read
    · cases (Extraction.eq_of_front read).1
    · split at read <;> cases read
  · rintro rfl
    rw [readValue] at read
    split at read
    · cases (Extraction.eq_of_front read).1
    · split at read <;> cases read

theorem isSpace_of_visible {c : Char} (visible : 0x20 < c.toNat) : isSpace c = false := by
  refine Bool.eq_false_iff.2 fun space => ?_
  simp only [isSpace, decide_eq_true_eq] at space
  rcases space with rfl | rfl | rfl | rfl <;> exact absurd visible (by decide)

theorem skipSpace_of_compact (h : Compact cs) : skipSpace cs = cs := by
  cases cs with
  | nil => rfl
  | cons c cs => exact skipSpace_cons (isSpace_of_visible (h c (List.mem_cons_self ..)))

/-- A number that reads back does so whatever ends it: its text has no space that could be skipped,
so that the reader leaves nothing of it. -/
theorem gives_num {n : Number} (back : read n.render = .ok (.num n)) (ended : Ended rest) :
    Gives (readValue (n.render.toList ++ rest)) (.num n) rest := by
  have compact := Number.compact_render n
  have space := skipSpace_of_compact compact
  obtain ⟨⟨value, left, shorter⟩, read, same, blank⟩ := Extraction.readChars_eq_ok back
  generalize skipSpace n.render.toList = text at shorter read space
  subst space
  obtain rfl : value = .num n := same
  obtain ⟨used, parts, -⟩ := Extraction.leaves_readValue read
  obtain rfl : left = [] := by
    rw [parts] at compact
    rwa [skipSpace_of_compact (compact.subset (List.subset_append_right used left))] at blank
  obtain ⟨c, cs, text⟩ := List.exists_cons_of_ne_nil
    (List.ne_nil_of_length_pos (Nat.zero_lt_of_lt shorter))
  have whole : Gives (readValue n.render.toList) (.num n) [] := ⟨shorter, read⟩
  rw [text] at whole ⊢
  obtain ⟨quote, brace, bracket⟩ := unmarked_of_num whole
  rw [readValue_scalar quote brace bracket] at whole
  rw [List.cons_append, readValue_scalar quote brace bracket]
  exact readScalar_append ended whole

theorem isDigit_eq (c : Char) : isDigit c = c.isDigit := by
  simp [isDigit, Char.isDigit, Char.le_def, UInt32.le_iff_toNat_le]

theorem isDigit_of_mem_toDigits {c : Char} {n : Nat} (mem : c ∈ Nat.toDigits 10 n) :
    isDigit c = true := by
  rw [isDigit_eq]
  exact Nat.isDigit_of_mem_toDigits (by decide) (by decide) mem

theorem exists_cons_toDigits (n : Nat) :
    ∃ c cs, Nat.toDigits 10 n = c :: cs ∧ isDigit c = true ∧ ∀ d ∈ cs, isDigit d = true := by
  obtain ⟨c, cs, text⟩ := List.exists_cons_of_ne_nil (Nat.toDigits_ne_nil (n := n) (b := 10))
  have all : ∀ d ∈ c :: cs, isDigit d = true := fun d mem => isDigit_of_mem_toDigits (text ▸ mem)
  exact ⟨c, cs, text, List.forall_mem_cons.1 all⟩

/-- The digits of a number do not begin with a zero, unless it is zero. -/
theorem head_toDigits {n : Nat} (positive : 0 < n) (ds : List Char) :
    Nat.toDigits 10 n ≠ '0' :: ds := by
  induction n using Nat.strong_induction_on generalizing ds with
  | _ n ih =>
    rw [Nat.toDigits_eq_if (by decide)]
    by_cases small : n < 10
    · rw [if_pos small]
      intro same
      have first : Nat.digitChar n = '0' := (List.cons.inj same).1
      have none := (by decide : ∀ m < 10, Nat.digitChar m = '0' → m = 0) n small first
      omega
    · rw [if_neg small]
      obtain ⟨c, cs, front, -⟩ := exists_cons_toDigits (n / 10)
      intro same
      rw [front, List.cons_append] at same
      refine ih (n / 10) (by omega) (by omega) cs ?_
      rw [front, (List.cons.inj same).1]

theorem wholeDigits_toDigits (n : Nat) : wholeDigits (Nat.toDigits 10 n) = Nat.toDigits 10 n := by
  rcases Nat.eq_zero_or_pos n with rfl | positive
  · rfl
  · obtain ⟨c, cs, text, first, later⟩ := exists_cons_toDigits n
    have leading : c ≠ '0' := by
      rintro rfl
      exact head_toDigits positive cs text
    rw [text, wholeDigits, if_neg leading, if_pos first, List.takeWhile_eq_self_iff.2 later]

theorem digitsValue_toDigits (n : Nat) : digitsValue (Nat.toDigits 10 n) = n := by
  have value := Nat.ofDigitChars_toDigits (b := 10) (n := n) (by decide) (by decide)
  rwa [Nat.ofDigitChars_eq_foldl] at value

/-- The digits of a number are read as the number, with the sign that stood before them. -/
theorem readUnsigned_toDigits (negative : Bool) {n : Nat} (short : n < 10 ^ digitLimit) :
    readUnsigned negative (Nat.toDigits 10 n) =
      .ok (some (.int (if negative then -(n : Int) else n), [])) := by
  have within : ¬digitLimit < (Nat.toDigits 10 n).length :=
    Nat.not_lt.2 ((Nat.length_toDigits_le_iff (by decide) (by decide)).2 short)
  have some : ¬(Nat.toDigits 10 n).isEmpty = true := by simp [Nat.toDigits_ne_nil]
  unfold readUnsigned
  dsimp only
  rw [wholeDigits_toDigits, List.drop_length, if_neg some, digitsValue_toDigits]
  simp [readFraction, readExponent, within]

theorem ne_of_isDigit {c d : Char} (digit : isDigit c = true) (other : isDigit d = false) :
    d ≠ c := by
  rintro rfl
  rw [other] at digit
  cases digit

theorem word?_digit {c : Char} (digit : isDigit c = true) : word? (c :: cs) wordValues = none := by
  have other (d : Char) (h : isDigit d = false) : d ≠ c := ne_of_isDigit digit h
  simp [word?, wordValues, afterWord?, other 'n' rfl, other 't' rfl, other 'f' rfl, other 'N' rfl,
    other 'I' rfl, other '-' rfl]

theorem word?_minus {c : Char} (digit : isDigit c = true) :
    word? ('-' :: c :: cs) wordValues = none := by
  have other : 'I' ≠ c := ne_of_isDigit digit rfl
  simp [word?, wordValues, afterWord?, other]

theorem gives_toDigits {n : Nat} (short : n < 10 ^ digitLimit) :
    Gives (readValue (Nat.toDigits 10 n)) (.num (.int n)) [] := by
  obtain ⟨c, cs, text, digit, -⟩ := exists_cons_toDigits n
  have number := readUnsigned_toDigits false short
  have other (d : Char) (h : isDigit d = false) : c ≠ d := (ne_of_isDigit digit h).symm
  rw [text] at number ⊢
  rw [readValue_scalar (other _ rfl) (other _ rfl) (other _ rfl),
    readScalar_plain (other _ rfl) (word?_digit digit), readSigned, number]
  exact front_gives _ (Nat.zero_lt_succ _)

theorem gives_minus {n : Nat} (short : n < 10 ^ digitLimit) :
    Gives (readValue ('-' :: Nat.toDigits 10 n)) (.num (.int (-n))) [] := by
  obtain ⟨c, cs, text, digit, -⟩ := exists_cons_toDigits n
  have number := readUnsigned_toDigits true short
  rw [text] at number ⊢
  rw [readValue_scalar (by decide) (by decide) (by decide), readScalar_minus (word?_minus digit),
    readSigned, number]
  exact front_gives _ (Nat.zero_lt_succ _)

/-- An integer within the limit reads back. -/
theorem read_render_int {n : Int} (short : n.natAbs < 10 ^ digitLimit) :
    read (Number.int n).render = .ok (.num (.int n)) := by
  rw [read, Number.toList_render_int]
  apply readChars_of_gives
  by_cases negative : n < 0
  · have sign : -(n.natAbs : Int) = n := by omega
    have number := gives_minus short
    rwa [if_pos negative, ← sign, Int.natAbs_neg, Int.natAbs_natCast]
  · have sign : (n.natAbs : Int) = n := by omega
    have number := gives_toDigits short
    rwa [if_neg negative, ← sign, Int.natAbs_natCast]

theorem read_word {text : String} {c : Char} (front : text.toList = c :: cs) (quote : c ≠ '"')
    (brace : c ≠ '\x7b') (bracket : c ≠ '[')
    (named : word? text.toList wordValues = some (value, [])) : read text = .ok value := by
  rw [front] at named
  rw [read, front]
  exact readChars_of_gives (gives_word quote brace bracket named)

/-- A number without a finite value reads back by its word. -/
theorem read_render_word {n : Number} (endless : n.isFinite = false) :
    read n.render = .ok (.num n) := by
  match n with
  | .double .nan =>
    exact read_word (by decide : "NaN".toList = ['N', 'a', 'N']) (by decide) (by decide)
      (by decide) (by simp [word?, wordValues, afterWord?]; rfl)
  | .double (.infinite true) =>
    exact read_word (by decide : "-Infinity".toList = '-' :: "Infinity".toList) (by decide)
      (by decide) (by decide) (by simp [word?, wordValues, afterWord?]; rfl)
  | .double (.infinite false) =>
    exact read_word (by decide : "Infinity".toList = 'I' :: "nfinity".toList) (by decide)
      (by decide) (by decide) (by simp [word?, wordValues, afterWord?]; rfl)

end Numbers

end WorkflowRepair.Json
