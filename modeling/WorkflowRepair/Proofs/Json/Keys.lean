import Mathlib.Data.List.Nodup
import WorkflowRepair.Proofs.Extraction.Reading

/-!
Keys that are given once. Setting a member keeps keys apart, and the reader sets the members of an
object one after another. So no object in a document that was read gives a key twice, at any depth,
by induction on the reader.
-/

namespace WorkflowRepair

namespace Members

variable {members added : Members} {key : String} {value : Json} {p : Json → Prop}

/-- No key is given twice. -/
def Keyed (members : Members) : Prop := (members.map Prod.fst).Nodup

instance (members : Members) : Decidable (Keyed members) :=
  inferInstanceAs (Decidable (List.Nodup _))

theorem has_eq_false_iff : has members key = false ↔ key ∉ members.map Prod.fst := by
  rw [has, ← Bool.not_eq_true, List.any_eq_true]
  simp only [decide_eq_true_eq, List.mem_map]

theorem keyed_nil : Keyed [] := List.nodup_nil

theorem Keyed.set (once : members.Keyed) : (Members.set members key value).Keyed := by
  unfold Members.set
  split
  · have keys : (members.map fun m => if m.1 = key then (key, value) else m).map Prod.fst =
        members.map Prod.fst := by
      rw [List.map_map]
      refine List.map_congr_left fun m _ => ?_
      by_cases same : m.1 = key <;> simp [same]
    rwa [Keyed, keys]
  · next fresh =>
    rw [Bool.not_eq_true, has_eq_false_iff] at fresh
    rw [Keyed, List.map_append]
    refine List.nodup_append.2 ⟨once, List.nodup_singleton key, fun k mem k' same => ?_⟩
    obtain rfl : k' = key := List.mem_singleton.1 same
    rintro rfl
    exact fresh mem

theorem Keyed.update (once : members.Keyed) : (Members.update members added).Keyed := by
  induction added generalizing members with
  | nil => exact once
  | cons m added ih => exact ih once.set

theorem forall_set (each : ∀ m ∈ members, p m.2) (new : p value) :
    ∀ m ∈ set members key value, p m.2 := by
  unfold set
  split
  · refine List.forall_mem_map.2 fun m mem => ?_
    split
    · exact new
    · exact each m mem
  · exact List.forall_mem_append.2 ⟨each, List.forall_mem_singleton.2 new⟩

theorem forall_update (each : ∀ m ∈ members, p m.2) (new : ∀ m ∈ added, p m.2) :
    ∀ m ∈ update members added, p m.2 := by
  induction added generalizing members with
  | nil => exact each
  | cons m added ih =>
    obtain ⟨here, later⟩ := List.forall_mem_cons.1 new
    exact ih (forall_set each here) later

theorem mem_of_get? (h : get? members key = some value) : ∃ m ∈ members, m.2 = value := by
  obtain ⟨m, found, same⟩ := Option.map_eq_some_iff.1 h
  exact ⟨m, List.mem_of_find?_eq_some found, same⟩

end Members

namespace Json

/-- No object in a document gives a key twice. -/
inductive Keyed : Json → Prop
  | null : Keyed .null
  | bool (b : Bool) : Keyed (.bool b)
  | num (n : Number) : Keyed (.num n)
  | str (s : String) : Keyed (.str s)
  | arr {items : List Json} (each : ∀ item ∈ items, Keyed item) : Keyed (.arr items)
  | obj {members : Members} (once : members.Keyed) (each : ∀ m ∈ members, Keyed m.2) :
      Keyed (.obj members)

namespace Keyed

variable {members : Members} {key : String} {value : Json}

theorem once (h : Keyed (.obj members)) : members.Keyed := by
  cases h with
  | obj once => exact once

theorem each (h : Keyed (.obj members)) : ∀ m ∈ members, m.2.Keyed := by
  cases h with
  | obj _ each => exact each

theorem items {items : List Json} (h : Keyed (.arr items)) : ∀ item ∈ items, item.Keyed := by
  cases h with
  | arr each => exact each

theorem get? (h : Keyed (.obj members)) (found : Members.get? members key = some value) :
    value.Keyed := by
  obtain ⟨m, mem, rfl⟩ := Members.mem_of_get? found
  exact h.each m mem

theorem getD (h : Keyed (.obj members)) (key : String) : (Members.getD members key).Keyed := by
  unfold Members.getD
  cases found : Members.get? members key with
  | none => exact .null
  | some value => exact h.get? found

/-- The members of what an object holds under a key. -/
theorem getD_members (h : Keyed (.obj members)) (key : String) :
    Keyed (.obj (((Members.getD members key).obj?).getD [])) := by
  have inside := h.getD key
  cases found : Members.getD members key with
  | obj below => exact found ▸ inside
  | null | bool _ | num _ | str _ | arr _ => exact .obj Members.keyed_nil nofun

theorem set (h : Keyed (.obj members)) (new : value.Keyed) :
    Keyed (.obj (Members.set members key value)) :=
  .obj h.once.set (Members.forall_set h.each new)

theorem pair {key' : String} {value' : Json} (other : key ≠ key') (h : value.Keyed)
    (h' : value'.Keyed) : Keyed (.obj [(key, value), (key', value')]) := by
  refine .obj ?_ (List.forall_mem_cons.2 ⟨h, List.forall_mem_singleton.2 h'⟩)
  simp [Members.Keyed, other]

end Keyed

/-! ### Documents that are read -/

theorem keyed_wordValues : ∀ entry ∈ wordValues, entry.2.Keyed := by
  intro entry mem
  simp only [wordValues, List.mem_cons, List.not_mem_nil, or_false] at mem
  rcases mem with rfl | rfl | rfl | rfl | rfl | rfl
  · exact .null
  · exact .bool true
  · exact .bool false
  all_goals exact .num _

theorem keyed_readScalar {cs : List Char} {v : Front Json cs} (h : readScalar cs = .ok v) :
    v.value.Keyed := by
  unfold readScalar at h
  split at h
  · next value rest found =>
    obtain ⟨entry, mem, word⟩ := List.exists_of_findSome?_eq_some found
    obtain ⟨rest', -, same⟩ := Option.map_eq_some_iff.1 word
    cases same
    rw [(Extraction.eq_of_front h).1]
    exact keyed_wordValues entry mem
  · split at h
    split at h
    · cases h
    · cases h
    · rw [(Extraction.eq_of_front h).1]
      exact .num _

mutual

/-- A value that is read is a scalar, a string, or a collection of values that are read. -/
theorem keyed_readValue {cs : List Char} {v : Front Json cs} (h : readValue cs = .ok v) :
    v.value.Keyed := by
  rcases Extraction.readValue_cases cs with ⟨rest, rfl⟩ | ⟨rest, rfl⟩ | ⟨rest, rfl⟩ | scalar
  · obtain ⟨s, -, value⟩ := Extraction.readValue_quote h
    exact value ▸ .str _
  · have : (skipSpace rest).length < ('\x7b' :: rest).length :=
      Nat.lt_succ_of_le (length_skipSpace_le rest)
    rcases Extraction.readValue_brace h with ⟨-, value⟩ | ⟨m, read, -, value⟩
    · exact value ▸ .obj Members.keyed_nil nofun
    · rw [value]
      exact .obj Members.keyed_nil.update (Members.forall_update nofun (keyed_readMembers read))
  · have : (skipSpace rest).length < ('[' :: rest).length :=
      Nat.lt_succ_of_le (length_skipSpace_le rest)
    rcases Extraction.readValue_bracket h with ⟨-, value⟩ | ⟨m, read, -, value⟩
    · exact value ▸ .arr nofun
    · exact value ▸ .arr (keyed_readItems read)
  · exact keyed_readScalar (scalar ▸ h)
termination_by (cs.length, 0)

theorem keyed_readItems {cs : List Char} {v : Front (List Json) cs} (h : readItems cs = .ok v) :
    ∀ item ∈ v.value, item.Keyed := by
  obtain ⟨item, read, ⟨-, value⟩ | ⟨rest, more, comma, later, -, value⟩⟩ :=
    Extraction.exists_of_readItems h
  · rw [value]
    exact List.forall_mem_singleton.2 (keyed_readValue read)
  · have : (skipSpace rest).length < cs.length :=
      Nat.lt_trans (Extraction.length_skipSpace_lt comma) item.shorter
    rw [value]
    exact List.forall_mem_cons.2 ⟨keyed_readValue read, keyed_readItems later⟩
termination_by (cs.length, 1)

theorem keyed_readMembers {cs : List Char} {v : Front Members cs} (h : readMembers cs = .ok v) :
    ∀ m ∈ v.value, m.2.Keyed := by
  obtain ⟨body, key, afterKey, afterColon, value, rfl, string, colon, read, ends⟩ :=
    Extraction.exists_of_readMembers h
  obtain ⟨used, rfl, -⟩ := Extraction.ends_readString string
  have first : (skipSpace afterColon).length < ('"' :: (used ++ afterKey)).length := by
    have := Extraction.length_skipSpace_lt colon
    simp only [List.length_cons, List.length_append]
    omega
  rcases ends with ⟨-, members⟩ | ⟨rest, more, comma, later, -, members⟩
  · rw [members]
    exact List.forall_mem_singleton.2 (keyed_readValue read)
  · have : (skipSpace rest).length < ('"' :: (used ++ afterKey)).length :=
      Nat.lt_trans (Extraction.length_skipSpace_lt comma) (Nat.lt_trans value.shorter first)
    rw [members]
    exact List.forall_mem_cons.2 ⟨keyed_readValue read, keyed_readMembers later⟩
termination_by (cs.length, 1)

end

/-- No object in a document that is read gives a key twice. -/
theorem keyed_readChars {cs : List Char} {j : Json} (h : readChars cs = .ok j) : j.Keyed := by
  obtain ⟨v, read, rfl, -⟩ := Extraction.readChars_eq_ok h
  exact keyed_readValue read

end Json

end WorkflowRepair
