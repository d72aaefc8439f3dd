import Mathlib.Data.List.Permutation
import WorkflowRepair.Proofs.Extraction.Reading

/-!
The object that is found is the leftmost one. A part of a text that reads as an object ends where
the scan from its first brace ends, so at every brace there is one candidate at most that can be an
object; trying the braces in order then finds the first object, whatever stands in front of it.
-/

namespace WorkflowRepair.Extraction

open Json

/-! ### Objects in a text -/

/-- The characters from the first place to the second, with both. -/
def slice (cs : List Char) (i j : Nat) : List Char := (cs.drop i).take (j + 1 - i)

/-- From the first place to the second, a brace and a brace, there is an object with the key. -/
structure ObjectAt (key : String) (cs : List Char) (i j : Nat) (members : Members) : Prop where
  ordered : i < j
  opens : cs[i]? = some '\x7b'
  closes : cs[j]? = some '\x7d'
  reads : readChars (slice cs i j) = .ok (.obj members)
  marked : ∃ m ∈ members, Text.lower m.1 = Text.lower key

/-- The object with the key that begins before all others. -/
structure Leftmost (key : String) (cs : List Char) (i j : Nat) (members : Members) : Prop where
  object : ObjectAt key cs i j members
  least : ∀ i' j' members', ObjectAt key cs i' j' members' → i ≤ i'

/-! ### A document in braces -/

/-- Nothing of a text that ends with a brace is left but space when nothing is left at all. -/
theorem eq_nil_of_skipSpace {inner used rest : List Char}
    (same : inner ++ ['\x7d'] = used ++ '\x7d' :: rest) (blank : skipSpace rest = []) :
    rest = [] := by
  rcases List.eq_nil_or_concat rest with none | ⟨front, last, rfl⟩
  · exact none
  · have space : isSpace last = true :=
      List.dropWhile_eq_nil_iff.1 blank last (by simp)
    have brace : '\x7d' = last := by
      have ends := congrArg List.getLast? same
      simpa [List.getLast?_append, List.getLast?_cons] using ends
    subst brace
    exact absurd space (by decide)

/-- A document that begins and ends with a brace is a candidate of the scan, whatever follows. -/
theorem balanced?_of_reads {inner : List Char} {value : Json}
    (h : readChars ('\x7b' :: (inner ++ ['\x7d'])) = .ok value) (more : List Char) :
    balanced? {} ('\x7b' :: (inner ++ '\x7d' :: more)) = some ('\x7b' :: (inner ++ ['\x7d'])) := by
  obtain ⟨v, read, -, blank⟩ : ∃ v : Front Json ('\x7b' :: (inner ++ ['\x7d'])),
      readValue ('\x7b' :: (inner ++ ['\x7d'])) = .ok v ∧ v.value = value ∧
        skipSpace v.rest = [] := readChars_eq_ok h
  obtain ⟨used, parts, level⟩ := closes_readValue read
  rw [eq_nil_of_skipSpace parts blank] at parts
  obtain rfl : inner = used := List.append_cancel_right parts
  exact balanced?_braces level more

/-! ### The object at a place -/

theorem marked?_eq_some_iff {key : String} {candidate : List Char} {members : Members} :
    marked? key candidate = some members ↔ readChars candidate = .ok (.obj members) ∧
      ∃ m ∈ members, Text.lower m.1 = Text.lower key := by
  unfold marked?
  split
  · next found read =>
    have same : (∃ m ∈ found, Text.lower m.1 = Text.lower key) ↔
        (found.any fun m => Text.lower m.1 == Text.lower key) = true := by simp
    rw [read, Except.ok.injEq, Json.obj.injEq]
    split
    · next marked =>
      rw [Option.some.injEq]
      refine ⟨fun h => ⟨h, h ▸ same.2 marked⟩, And.left⟩
    · next unmarked =>
      refine ⟨nofun, fun h => ?_⟩
      obtain ⟨rfl, marked⟩ := h
      exact absurd (same.1 marked) unmarked
  · next other =>
    refine ⟨nofun, fun h => ?_⟩
    exact absurd h.1 (other members)

section Places

variable {key : String} {cs : List Char} {i j : Nat} {members : Members}

theorem drop_eq_cons {c : Char} (h : cs[i]? = some c) : cs.drop i = c :: cs.drop (i + 1) := by
  obtain ⟨inside, rfl⟩ := List.getElem?_eq_some_iff.1 h
  exact List.drop_eq_getElem_cons inside

/-- A part of a text between two braces, with what follows it. -/
theorem exists_inner (ordered : i < j) (opens : cs[i]? = some '\x7b')
    (closes : cs[j]? = some '\x7d') :
    ∃ inner, slice cs i j = '\x7b' :: (inner ++ ['\x7d']) ∧
      cs.drop i = '\x7b' :: (inner ++ '\x7d' :: cs.drop (j + 1)) := by
  obtain ⟨n, rfl⟩ := Nat.exists_eq_add_of_lt ordered
  generalize inner_eq : (cs.drop (i + 1)).take n = inner
  have parts : cs.drop i = '\x7b' :: (inner ++ '\x7d' :: cs.drop (i + n + 1 + 1)) := by
    calc cs.drop i = '\x7b' :: (inner ++ (cs.drop (i + 1)).drop n) := by
          rw [drop_eq_cons opens, ← inner_eq, List.take_append_drop]
      _ = '\x7b' :: (inner ++ cs.drop (i + n + 1)) := by rw [List.drop_drop, Nat.add_right_comm]
      _ = '\x7b' :: (inner ++ '\x7d' :: cs.drop (i + n + 1 + 1)) := by rw [drop_eq_cons closes]
  refine ⟨inner, ?_, parts⟩
  have inside := (List.getElem?_eq_some_iff.1 closes).1
  have size : ('\x7b' :: (inner ++ ['\x7d'])).length = i + n + 1 + 1 - i := by
    rw [← inner_eq]
    simp only [List.length_cons, List.length_append, List.length_take, List.length_drop,
      List.length_nil]
    omega
  have whole : cs.drop i = '\x7b' :: (inner ++ ['\x7d']) ++ cs.drop (i + n + 1 + 1) := by
    rw [parts]
    simp
  rw [slice, whole, List.take_left' size]

theorem ObjectAt.objectAt? (h : ObjectAt key cs i j members) :
    objectAt? key (cs.drop i) = some (slice cs i j, members) := by
  obtain ⟨inner, written, parts⟩ := exists_inner h.ordered h.opens h.closes
  have reads := h.reads
  rw [written] at reads
  have marked := marked?_eq_some_iff.2 ⟨reads, h.marked⟩
  rw [parts, written, Extraction.objectAt?, balanced?_of_reads reads]
  simp [marked]

/-- What is found at a place is an object that begins there. -/
theorem exists_of_objectAt? {written : List Char}
    (h : objectAt? key (cs.drop i) = some (written, members)) :
    ∃ j, ObjectAt key cs i j members ∧ written = slice cs i j := by
  unfold objectAt? at h
  split at h
  · next rest parts =>
    obtain ⟨candidate, scan, found⟩ := Option.bind_eq_some_iff.1 h
    obtain ⟨_, marked, same⟩ := Option.map_eq_some_iff.1 found
    cases same
    obtain ⟨front, more, rfl, whole⟩ := exists_of_balanced? scan
    obtain ⟨reads, keyed⟩ := marked?_eq_some_iff.1 marked
    have text : cs.drop i = front ++ ['\x7d'] ++ more := by
      rw [whole]
      simp
    have written : slice cs i (i + front.length) = front ++ ['\x7d'] := by
      rw [slice, text, List.take_left']
      simp only [List.length_append, List.length_cons, List.length_nil]
      omega
    have filled : front ≠ [] := by
      rintro rfl
      rw [parts] at whole
      cases whole
    refine ⟨i + front.length, ⟨?_, ?_, ?_, written ▸ reads, keyed⟩, written.symm⟩
    · exact Nat.lt_add_of_pos_right (List.length_pos_iff.2 filled)
    · have first : (cs.drop i)[0]? = some '\x7b' := by rw [parts]; rfl
      simpa using first
    · have last : (cs.drop i)[front.length]? = some '\x7d' := by simp [text]
      simpa using last
  · cases h

/-- There is one object at most with the key that begins at a place. -/
theorem ObjectAt.unique {j' : Nat} {members' : Members} (h : ObjectAt key cs i j members)
    (h' : ObjectAt key cs i j' members') : j = j' ∧ members = members' := by
  have same := h.objectAt?.symm.trans h'.objectAt?
  simp only [Option.some.injEq, Prod.mk.injEq] at same
  have inside := (List.getElem?_eq_some_iff.1 h.closes).1
  have inside' := (List.getElem?_eq_some_iff.1 h'.closes).1
  have sizes := congrArg List.length same.1
  simp only [slice, List.length_take, List.length_drop] at sizes
  have ordered := h.ordered
  have ordered' := h'.ordered
  exact ⟨by omega, same.2⟩

end Places

/-! ### The first place -/

section Find

variable {key : String} {cs written : List Char} {members : Members}

theorem find?_of_objectAt? {found : List Char × Members} (h : objectAt? key cs = some found) :
    find? key cs = some found := by
  cases cs with
  | nil => cases h
  | cons c rest => rw [find?, h]

/-- Places at which there is no object may be left out. -/
theorem find?_drop {i : Nat} (absent : ∀ i' < i, objectAt? key (cs.drop i') = none) :
    find? key cs = find? key (cs.drop i) := by
  induction i generalizing cs with
  | zero => rfl
  | succ i ih =>
    cases cs with
    | nil => rfl
    | cons c rest =>
      have here : objectAt? key (c :: rest) = none := absent 0 (Nat.succ_pos i)
      rw [find?, here]
      exact ih fun i' before => absent (i' + 1) (Nat.succ_lt_succ before)

theorem find?_drop_eq_none (h : find? key cs = none) (i : Nat) :
    find? key (cs.drop i) = none := by
  induction i generalizing cs with
  | zero => exact h
  | succ i ih =>
    cases cs with
    | nil => rfl
    | cons c rest =>
      rw [find?] at h
      split at h
      · cases h
      · exact ih h

theorem exists_of_find? {found : List Char × Members} (h : find? key cs = some found) :
    ∃ i, objectAt? key (cs.drop i) = some found ∧
      ∀ i' < i, objectAt? key (cs.drop i') = none := by
  induction cs with
  | nil => cases h
  | cons c rest ih =>
    rw [find?] at h
    split at h
    · next here =>
      cases h
      exact ⟨0, here, nofun⟩
    · next absent =>
      obtain ⟨i, here, before⟩ := ih h
      refine ⟨i + 1, here, fun i' less => ?_⟩
      cases i' with
      | zero => exact absent
      | succ i' => exact before i' (Nat.lt_of_succ_lt_succ less)

theorem objectAt?_eq_none {i : Nat} (h : ∀ j members, ¬ObjectAt key cs i j members) :
    objectAt? key (cs.drop i) = none := by
  cases found : objectAt? key (cs.drop i) with
  | none => rfl
  | some object =>
    obtain ⟨j, here, -⟩ := exists_of_objectAt? found
    exact absurd here (h j _)

/-- What is found is the leftmost object, as it is written and as it is read. -/
theorem find?_eq_some_iff :
    find? key cs = some (written, members) ↔
      ∃ i j, Leftmost key cs i j members ∧ written = slice cs i j := by
  constructor
  · intro h
    obtain ⟨i, here, before⟩ := exists_of_find? h
    obtain ⟨j, object, rfl⟩ := exists_of_objectAt? here
    refine ⟨i, j, ⟨object, fun i' j' members' other => Nat.le_of_not_lt fun less => ?_⟩, rfl⟩
    have absent := before i' less
    rw [other.objectAt?] at absent
    cases absent
  · rintro ⟨i, j, ⟨object, least⟩, rfl⟩
    have absent : ∀ i' < i, objectAt? key (cs.drop i') = none := fun i' less =>
      objectAt?_eq_none fun j' members' other => Nat.not_lt.2 (least i' j' members' other) less
    rw [find?_drop absent]
    exact find?_of_objectAt? object.objectAt?

theorem find?_eq_none_iff :
    find? key cs = none ↔ ∀ i j members, ¬ObjectAt key cs i j members := by
  constructor
  · intro h i j members object
    have later := find?_drop_eq_none h i
    rw [find?_of_objectAt? object.objectAt?] at later
    cases later
  · intro absent
    cases found : find? key cs with
    | none => rfl
    | some object =>
      obtain ⟨i, j, leftmost, -⟩ := find?_eq_some_iff.1 found
      exact absurd leftmost.object (absent i j _)

end Find

theorem extract?_eq_some_iff {key text written : String} :
    extract? key text = some written ↔ ∃ i j members,
      Leftmost key text.toList i j members ∧ written.toList = slice text.toList i j := by
  rw [extract?, Option.map_eq_some_iff]
  constructor
  · rintro ⟨⟨front, members⟩, found, rfl⟩
    obtain ⟨i, j, leftmost, rfl⟩ := find?_eq_some_iff.1 found
    exact ⟨i, j, members, leftmost, String.toList_ofList⟩
  · rintro ⟨i, j, members, leftmost, same⟩
    refine ⟨(slice text.toList i j, members), find?_eq_some_iff.2 ⟨i, j, leftmost, rfl⟩, ?_⟩
    rw [← same, String.ofList_toList]

theorem payload?_eq_some_iff {key text : String} {members : Members} :
    payload? key text = some members ↔ ∃ i j, Leftmost key text.toList i j members := by
  rw [payload?, Option.map_eq_some_iff]
  constructor
  · rintro ⟨⟨front, members⟩, found, rfl⟩
    obtain ⟨i, j, leftmost, -⟩ := find?_eq_some_iff.1 found
    exact ⟨i, j, leftmost⟩
  · rintro ⟨i, j, leftmost⟩
    exact ⟨(slice text.toList i j, members), find?_eq_some_iff.2 ⟨i, j, leftmost, rfl⟩, rfl⟩

/-- What is extracted is the leftmost object with the key, as it is written and as it is read, and
nothing is extracted exactly when there is none. A place is the beginning of one object at most. -/
theorem extract_leftmost (key text : String) :
    (∀ written, extract? key text = some written ↔ ∃ i j members,
      Leftmost key text.toList i j members ∧ written.toList = slice text.toList i j) ∧
    (∀ members, payload? key text = some members ↔ ∃ i j,
      Leftmost key text.toList i j members) ∧
    (extract? key text = none ↔ ∀ i j members, ¬ObjectAt key text.toList i j members) ∧
    (payload? key text = none ↔ ∀ i j members, ¬ObjectAt key text.toList i j members) ∧
    ∀ i j j' members members', ObjectAt key text.toList i j members →
      ObjectAt key text.toList i j' members' → j = j' ∧ members = members' := by
  refine ⟨fun _ => extract?_eq_some_iff, fun _ => payload?_eq_some_iff, ?_, ?_, ?_⟩
  · rw [extract?, Option.map_eq_none_iff, find?_eq_none_iff]
  · rw [payload?, Option.map_eq_none_iff, find?_eq_none_iff]
  · exact fun i j j' members members' first second => first.unique second

/-- An open brace in prose, a quoted one, and a brace in the text of the object itself. -/
def misleading : String := "a \x7bb \"\x7b\" \x7b\"nodes\": \"\x7d\"\x7d \x7b\"nodes\": 2\x7d"

theorem extract_leftmost_misleading :
    payload? "nodes" misleading = some [("nodes", .str "\x7d")] ∧
      ∃ i j, Leftmost "nodes" misleading.toList i j [("nodes", .str "\x7d")] := by
  have found : payload? "nodes" misleading = some [("nodes", .str "\x7d")] := by cbv
  exact ⟨found, ((extract_leftmost "nodes" misleading).2.1 _).1 found⟩

end WorkflowRepair.Extraction
