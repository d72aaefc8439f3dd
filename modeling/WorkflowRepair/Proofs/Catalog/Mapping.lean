import Mathlib.Data.List.Forall2
import Mathlib.Data.List.Nodup
import WorkflowRepair.Catalog

/-!
What mappings are catalogs. A mapping is one when it has a version and entries, each entry writes
what it has to, and no code comes twice. Of another mapping the error tells the first thing that is
wrong: the version, the list of entries, or else the first entry that does not fit behind those
before it, and of that entry what is looked at first.
-/

namespace WorkflowRepair

/-- There is a text under the key, and it is not empty. -/
def Members.HasText (members : Members) (key text : String) : Prop :=
  get? members key = some (.str text) ∧ text ≠ ""

theorem Members.HasText.unique {members : Members} {key text text' : String}
    (h : HasText members key text) (h' : HasText members key text') : text = text' := by
  have same := h.1.symm.trans h'.1
  injection same with same
  injection same

namespace CatalogEntry

/-- The profile is written under its name; the structural one may be left out. -/
def HasProfile (members : Members) : Profile → Prop
  | .structural => Members.get? members "profile" = none ∨
      Members.get? members "profile" = some (.str "structure")
  | .generated => Members.get? members "profile" = some (.str "generated")

/-- The members write the entry. -/
structure OfMembers (members : Members) (entry : CatalogEntry) : Prop where
  code : Members.HasText members "code" entry.code
  message : Members.HasText members "message" entry.message
  repro : Members.get? members "minimal_repro" = some (.obj entry.repro)
  nodes : Members.has entry.repro "nodes" = true
  profile : HasProfile members entry.profile
  hint : ∀ hint, entry.hint = some hint ↔ Members.get? members "hint" = some (.str hint)

/-- A document writes the entry. -/
def WrittenBy (raw : Json) (entry : CatalogEntry) : Prop :=
  ∃ members, raw = .obj members ∧ OfMembers members entry

end CatalogEntry

namespace Catalog

open CatalogEntry

/-- One of the documents has the code. -/
def Used (earlier : List Json) (code : String) : Prop :=
  ∃ members, .obj members ∈ earlier ∧ Members.HasText members "code" code

/-- A document is an entry with a code that none of the earlier ones has. -/
def Fits (earlier : List Json) (raw : Json) : Prop :=
  ∃ entry, WrittenBy raw entry ∧ ¬Used earlier entry.code

/-- What is wrong with a document behind the earlier ones. Of several faults the first in this order
counts. -/
inductive Fault (earlier : List Json) : Json → CatalogError → Prop
  | notMapping {raw : Json} (other : ∀ members, raw ≠ .obj members) :
      Fault earlier raw (.entryNotMapping earlier.length)
  | noCode {members : Members} (none : ∀ code, ¬Members.HasText members "code" code) :
      Fault earlier (.obj members) (.noCode earlier.length)
  | duplicateCode {members : Members} {code : String}
      (coded : Members.HasText members "code" code) (used : Used earlier code) :
      Fault earlier (.obj members) (.duplicateCode code)
  | noMessage {members : Members} {code : String} (coded : Members.HasText members "code" code)
      (fresh : ¬Used earlier code)
      (none : ∀ message, ¬Members.HasText members "message" message) :
      Fault earlier (.obj members) (.noMessage code)
  | noRepro {members : Members} {code message : String}
      (coded : Members.HasText members "code" code) (fresh : ¬Used earlier code)
      (worded : Members.HasText members "message" message)
      (none : ∀ repro, Members.get? members "minimal_repro" = some (.obj repro) →
        Members.has repro "nodes" = false) :
      Fault earlier (.obj members) (.noRepro code)
  | unknownProfile {members repro : Members} {code message : String}
      (coded : Members.HasText members "code" code) (fresh : ¬Used earlier code)
      (worded : Members.HasText members "message" message)
      (shown : Members.get? members "minimal_repro" = some (.obj repro))
      (nodes : Members.has repro "nodes" = true) (none : ∀ profile, ¬HasProfile members profile) :
      Fault earlier (.obj members) (.unknownProfile code)

/-! ### What stands under a key -/

section Keys

variable {members : Members} {key : String}

theorem getD_eq_iff {value : Json} (given : value ≠ .null) :
    Members.getD members key = value ↔ Members.get? members key = some value := by
  unfold Members.getD
  cases Members.get? members key with
  | none => simp [given.symm]
  | some found => simp

theorem str?_getD_eq_some_iff {text : String} :
    (Members.getD members key).str? = some text ↔
      Members.get? members key = some (.str text) := by
  rw [← getD_eq_iff (Json.noConfusion : Json.str text ≠ .null)]
  cases Members.getD members key <;> simp [Json.str?]

theorem text?_eq_some_iff {text : String} :
    text? members key = some text ↔ Members.HasText members key text := by
  rw [text?, Option.filter_eq_some_iff, str?_getD_eq_some_iff, decide_eq_true_iff]
  rfl

theorem text?_eq_none_iff :
    text? members key = none ↔ ∀ text, ¬Members.HasText members key text := by
  simp only [← text?_eq_some_iff, Option.eq_none_iff_forall_ne_some, ne_eq]

theorem repro?_eq_some_iff {repro : Members} :
    repro? members = some repro ↔ Members.get? members "minimal_repro" = some (.obj repro) ∧
      Members.has repro "nodes" = true := by
  rw [repro?, Option.filter_eq_some_iff,
    ← getD_eq_iff (Json.noConfusion : Json.obj repro ≠ .null)]
  cases Members.getD members "minimal_repro" <;> simp [Json.obj?]

theorem ofName?_eq_some_iff {name : String} {profile : Profile} :
    Profile.ofName? name = some profile ↔ name = profile.name := by
  constructor
  · intro found
    have same := List.find?_some found
    exact (of_decide_eq_true same).symm
  · rintro rfl
    cases profile <;> rfl

theorem repro?_eq_none_iff :
    repro? members = none ↔ ∀ repro, Members.get? members "minimal_repro" = some (.obj repro) →
      Members.has repro "nodes" = false := by
  simp only [Option.eq_none_iff_forall_ne_some, ne_eq, repro?_eq_some_iff, not_and,
    Bool.not_eq_true]

theorem profile?_eq_some_iff {profile : Profile} :
    profile? members = some profile ↔ HasProfile members profile := by
  unfold profile?
  cases found : Members.get? members "profile" with
  | none => cases profile <;> simp [HasProfile, found]
  | some value =>
    cases value <;> cases profile <;>
      simp [HasProfile, found, Json.str?, ofName?_eq_some_iff, Profile.name]

theorem profile?_eq_none_iff :
    profile? members = none ↔ ∀ profile, ¬HasProfile members profile := by
  simp only [← profile?_eq_some_iff, Option.eq_none_iff_forall_ne_some, ne_eq]

end Keys

/-! ### Entries -/

section Entries

variable {earlier : List Json} {seen : List String} {raw : Json}

/-- The codes that were seen are those of the earlier documents. -/
def Seen (earlier : List Json) (seen : List String) : Prop :=
  ∀ code, seen.contains code = true ↔ Used earlier code

/-- A document that writes no fitting entry has a fault. -/
theorem fits_or_fault (earlier : List Json) (raw : Json) :
    Fits earlier raw ∨ ∃ error, Fault earlier raw error := by
  by_cases mapping : ∃ members, raw = .obj members
  swap
  · exact .inr ⟨_, .notMapping fun members same => mapping ⟨members, same⟩⟩
  obtain ⟨members, rfl⟩ := mapping
  cases coded : text? members "code" with
  | none => exact .inr ⟨_, .noCode (text?_eq_none_iff.1 coded)⟩
  | some code =>
    rw [text?_eq_some_iff] at coded
    by_cases used : Used earlier code
    · exact .inr ⟨_, .duplicateCode coded used⟩
    cases worded : text? members "message" with
    | none => exact .inr ⟨_, .noMessage coded used (text?_eq_none_iff.1 worded)⟩
    | some message =>
      rw [text?_eq_some_iff] at worded
      cases shown : repro? members with
      | none => exact .inr ⟨_, .noRepro coded used worded (repro?_eq_none_iff.1 shown)⟩
      | some repro =>
        obtain ⟨shown, nodes⟩ := repro?_eq_some_iff.1 shown
        cases named : profile? members with
        | none =>
          exact .inr ⟨_, .unknownProfile coded used worded shown nodes
            (profile?_eq_none_iff.1 named)⟩
        | some profile =>
          have profiled := profile?_eq_some_iff.1 named
          refine .inl ⟨⟨code, profile, message, repro, (Members.getD members "hint").str?⟩,
            ⟨members, rfl, coded, worded, shown, nodes, profiled, fun hint => ?_⟩, used⟩
          exact str?_getD_eq_some_iff

theorem Seen.contains_eq_false (known : Seen earlier seen) {code : String}
    (fresh : ¬Used earlier code) : seen.contains code = false := by
  rw [← Bool.not_eq_true, known code]
  exact fresh

theorem ofJson_of_writtenBy (known : Seen earlier seen) {entry : CatalogEntry}
    (written : WrittenBy raw entry) (fresh : ¬Used earlier entry.code) (place : Nat) :
    CatalogEntry.ofJson place seen raw = .ok entry := by
  obtain ⟨members, rfl, h⟩ := written
  have code := text?_eq_some_iff.2 h.code
  have message := text?_eq_some_iff.2 h.message
  have repro := repro?_eq_some_iff.2 ⟨h.repro, h.nodes⟩
  have profile := profile?_eq_some_iff.2 h.profile
  have hint : (Members.getD members "hint").str? = entry.hint :=
    Option.ext fun hint => str?_getD_eq_some_iff.trans (h.hint hint).symm
  simp only [CatalogEntry.ofJson, code, known.contains_eq_false fresh, message, repro, profile,
    hint, Bool.false_eq_true, if_false]

theorem ofJson_of_fault (known : Seen earlier seen) {error : CatalogError}
    (h : Fault earlier raw error) :
    CatalogEntry.ofJson earlier.length seen raw = .error error := by
  cases h with
  | notMapping other =>
    cases raw with
    | obj members => exact absurd rfl (other members)
    | _ => rfl
  | noCode none => simp only [CatalogEntry.ofJson, text?_eq_none_iff.2 none]
  | duplicateCode coded used =>
    simp only [CatalogEntry.ofJson, text?_eq_some_iff.2 coded, (known _).2 used, if_true]
  | noMessage coded fresh none =>
    simp only [CatalogEntry.ofJson, text?_eq_some_iff.2 coded, known.contains_eq_false fresh,
      text?_eq_none_iff.2 none, Bool.false_eq_true, if_false]
  | noRepro coded fresh worded none =>
    simp only [CatalogEntry.ofJson, text?_eq_some_iff.2 coded, known.contains_eq_false fresh,
      text?_eq_some_iff.2 worded, repro?_eq_none_iff.2 none, Bool.false_eq_true, if_false]
  | unknownProfile coded fresh worded shown nodes none =>
    simp only [CatalogEntry.ofJson, text?_eq_some_iff.2 coded, known.contains_eq_false fresh,
      text?_eq_some_iff.2 worded, repro?_eq_some_iff.2 ⟨shown, nodes⟩,
      profile?_eq_none_iff.2 none, Bool.false_eq_true, if_false]

theorem ofJson_eq_error_iff (known : Seen earlier seen) {error : CatalogError} :
    CatalogEntry.ofJson earlier.length seen raw = .error error ↔ Fault earlier raw error := by
  constructor
  · intro read
    rcases fits_or_fault earlier raw with ⟨entry, written, fresh⟩ | ⟨error', fault⟩
    · rw [ofJson_of_writtenBy known written fresh] at read
      cases read
    · rw [ofJson_of_fault known fault, Except.error.injEq] at read
      exact read ▸ fault
  · exact ofJson_of_fault known

theorem Fits.not_fault (known : Seen earlier seen) {error : CatalogError}
    (fits : Fits earlier raw) : ¬Fault earlier raw error := by
  obtain ⟨entry, written, fresh⟩ := fits
  rw [← ofJson_eq_error_iff known, ofJson_of_writtenBy known written fresh]
  exact nofun

/-- With an entry its code is seen. -/
theorem Seen.cons (known : Seen earlier seen) {entry : CatalogEntry}
    (written : WrittenBy raw entry) : Seen (earlier ++ [raw]) (entry.code :: seen) := by
  obtain ⟨members, rfl, h⟩ := written
  intro code
  rw [List.contains_cons, Bool.or_eq_true, beq_iff_eq, known code]
  constructor
  · rintro (rfl | ⟨others, mem, coded⟩)
    · exact ⟨members, by simp, h.code⟩
    · exact ⟨others, List.mem_append_left _ mem, coded⟩
  · rintro ⟨others, mem, coded⟩
    rcases List.mem_append.1 mem with mem | mem
    · exact .inr ⟨others, mem, coded⟩
    · obtain rfl : others = members := by simpa using mem
      exact .inl (coded.unique h.code)

end Entries

/-! ### Lists of entries -/

/-- Each item fits behind the earlier ones and those before it. -/
def EachFits (earlier items : List Json) : Prop :=
  ∀ front raw back, items = front ++ raw :: back → Fits (earlier ++ front) raw

/-- The fault of the first item that does not fit. -/
def FirstFault (earlier items : List Json) (error : CatalogError) : Prop :=
  ∃ front raw back, items = front ++ raw :: back ∧ EachFits earlier front ∧
    Fault (earlier ++ front) raw error

section Lists

variable {earlier items : List Json} {seen : List String} {raw : Json} {error : CatalogError}

theorem eachFits_nil (earlier : List Json) : EachFits earlier [] := by
  intro front raw back parts
  simp at parts

theorem eachFits_cons :
    EachFits earlier (raw :: items) ↔ Fits earlier raw ∧ EachFits (earlier ++ [raw]) items := by
  constructor
  · intro h
    refine ⟨by simpa using h [] raw items rfl, fun front raw' back parts => ?_⟩
    simpa using h (raw :: front) raw' back (by rw [parts]; rfl)
  · rintro ⟨here, later⟩ front raw' back parts
    cases front with
    | nil =>
      cases parts
      simpa using here
    | cons first front =>
      cases parts
      simpa using later front raw' back rfl

theorem not_firstFault_nil : ¬FirstFault earlier [] error := by
  rintro ⟨front, raw, back, parts, -⟩
  simp at parts

theorem firstFault_cons :
    FirstFault earlier (raw :: items) error ↔
      Fault earlier raw error ∨ Fits earlier raw ∧ FirstFault (earlier ++ [raw]) items error := by
  constructor
  · rintro ⟨front, raw', back, parts, fit, fault⟩
    cases front with
    | nil =>
      cases parts
      exact .inl (by simpa using fault)
    | cons first front =>
      cases parts
      obtain ⟨here, later⟩ := eachFits_cons.1 fit
      exact .inr ⟨here, front, raw', back, rfl, later, by simpa using fault⟩
  · rintro (fault | ⟨here, front, raw', back, rfl, later, fault⟩)
    · exact ⟨[], raw, items, rfl, eachFits_nil earlier, by simpa using fault⟩
    · exact ⟨raw :: front, raw', back, rfl, eachFits_cons.2 ⟨here, later⟩, by simpa using fault⟩

theorem entriesFrom_of_fault (known : Seen earlier seen) (fault : Fault earlier raw error) :
    entriesFrom earlier.length seen (raw :: items) = .error error := by
  rw [entriesFrom, ofJson_of_fault known fault]

theorem entriesFrom_of_writtenBy (known : Seen earlier seen) {entry : CatalogEntry}
    (written : WrittenBy raw entry) (fresh : ¬Used earlier entry.code) :
    entriesFrom earlier.length seen (raw :: items) =
      (entriesFrom (earlier ++ [raw]).length (entry.code :: seen) items).map (entry :: ·) := by
  rw [entriesFrom, ofJson_of_writtenBy known written fresh, List.length_append,
    List.length_singleton]
  dsimp only
  cases entriesFrom (earlier.length + 1) (entry.code :: seen) items <;> rfl

theorem map_eq_error_iff {α β : Type} {f : α → β} {result : Except CatalogError α} :
    result.map f = .error error ↔ result = .error error := by
  cases result <;> simp [Except.map]

/-- Entries are read when each of them fits. -/
theorem exists_entries_iff (known : Seen earlier seen) :
    (∃ entries, entriesFrom earlier.length seen items = .ok entries) ↔
      EachFits earlier items := by
  induction items generalizing earlier seen with
  | nil => exact iff_of_true ⟨[], rfl⟩ (eachFits_nil earlier)
  | cons raw items ih =>
    rw [eachFits_cons]
    rcases fits_or_fault earlier raw with ⟨entry, written, fresh⟩ | ⟨error, fault⟩
    · rw [entriesFrom_of_writtenBy known written fresh, ← ih (known.cons written),
        and_iff_right ⟨entry, written, fresh⟩]
      cases entriesFrom (earlier ++ [raw]).length (entry.code :: seen) items <;>
        simp [Except.map]
    · rw [entriesFrom_of_fault known fault]
      exact iff_of_false (by simp) fun fits => fits.1.not_fault known fault

/-- The first item that does not fit decides the error. -/
theorem entriesFrom_eq_error_iff (known : Seen earlier seen) :
    entriesFrom earlier.length seen items = .error error ↔ FirstFault earlier items error := by
  induction items generalizing earlier seen with
  | nil => exact iff_of_false nofun not_firstFault_nil
  | cons raw items ih =>
    rw [firstFault_cons]
    rcases fits_or_fault earlier raw with ⟨entry, written, fresh⟩ | ⟨error', fault⟩
    · have fits : Fits earlier raw := ⟨entry, written, fresh⟩
      rw [entriesFrom_of_writtenBy known written fresh, map_eq_error_iff,
        ih (known.cons written), or_iff_right (fits.not_fault known), and_iff_right fits]
    · have here : ¬(Fits earlier raw ∧ FirstFault (earlier ++ [raw]) items error) :=
        fun fits => fits.1.not_fault known fault
      rw [entriesFrom_of_fault known fault, or_iff_left here, ← ofJson_eq_error_iff known,
        ofJson_of_fault known fault, Except.error.injEq, Except.error.injEq]

/-- The entries are those that the items write, in their order, with codes of their own. -/
theorem entriesFrom_eq_ok (known : Seen earlier seen) {entries : List CatalogEntry}
    (read : entriesFrom earlier.length seen items = .ok entries) :
    List.Forall₂ WrittenBy items entries ∧ (entries.map CatalogEntry.code).Nodup ∧
      ∀ entry ∈ entries, ¬Used earlier entry.code := by
  induction items generalizing earlier seen entries with
  | nil =>
    cases read
    simp
  | cons raw items ih =>
    rcases fits_or_fault earlier raw with ⟨entry, written, fresh⟩ | ⟨error, fault⟩
    swap
    · rw [entriesFrom_of_fault known fault] at read
      cases read
    rw [entriesFrom_of_writtenBy known written fresh] at read
    cases later : entriesFrom (earlier ++ [raw]).length (entry.code :: seen) items with
    | error error =>
      rw [later] at read
      cases read
    | ok more =>
      rw [later] at read
      cases read
      obtain ⟨told, nodup, unused⟩ := ih (known.cons written) later
      have known' := known.cons written
      refine ⟨.cons written told, List.nodup_cons.2 ⟨fun mem => ?_, nodup⟩,
        List.forall_mem_cons.2 ⟨fresh, fun other mem used => unused other mem ?_⟩⟩
      · obtain ⟨other, mem, same⟩ := List.mem_map.1 mem
        exact unused other mem ((known' _).1 (by simp [same]))
      · obtain ⟨members, mem, coded⟩ := used
        exact ⟨members, List.mem_append_left _ mem, coded⟩

end Lists

/-! ### Catalogs -/

/-- The mapping has a version and entries, and each entry fits behind those before it. -/
structure WellFormed (data : Members) : Prop where
  version : ∃ version, Members.HasText data "version" version
  entries : ∃ items, Members.get? data "hard_errors" = some (.arr items) ∧ items ≠ [] ∧
    EachFits [] items

/-- The error that tells what is wrong with a mapping first. -/
inductive Rejected (data : Members) : CatalogError → Prop
  | noVersion (none : ∀ version, ¬Members.HasText data "version" version) :
      Rejected data .noVersion
  | noEntries {version : String} (versioned : Members.HasText data "version" version)
      (none : ∀ items, Members.get? data "hard_errors" = some (.arr items) → items = []) :
      Rejected data .noEntries
  | entry {version : String} {items : List Json} {error : CatalogError}
      (versioned : Members.HasText data "version" version)
      (listed : Members.get? data "hard_errors" = some (.arr items))
      (fault : FirstFault [] items error) : Rejected data error

/-- What a catalog has of the mapping it was read from. -/
structure ReadFrom (data : Members) (catalog : Catalog) : Prop where
  version : Members.HasText data "version" catalog.version
  entries : ∃ items, Members.get? data "hard_errors" = some (.arr items) ∧
    List.Forall₂ WrittenBy items catalog.entries
  distinct : catalog.codes.Nodup
  found : ∀ entry ∈ catalog.entries, catalog.entry? entry.code = some entry
  generated : catalog.codesFor .generated = catalog.codes
  structural : catalog.codesFor .structural = catalog.codes.filter fun code =>
    (catalog.entry? code).any fun entry => entry.profile = .structural

section OfMapping

variable {data : Members}

theorem seen_nil : Seen [] [] := by
  intro code
  refine iff_of_false (by simp) ?_
  rintro ⟨members, mem, -⟩
  cases mem

theorem ofMapping_of_noVersion (none : ∀ version, ¬Members.HasText data "version" version) :
    ofMapping data = .error .noVersion := by
  rw [ofMapping, text?_eq_none_iff.2 none]

theorem ofMapping_of_noEntries {version : String}
    (versioned : Members.HasText data "version" version)
    (none : ∀ items, Members.get? data "hard_errors" = some (.arr items) → items = []) :
    ofMapping data = .error .noEntries := by
  rw [ofMapping, text?_eq_some_iff.2 versioned]
  dsimp only
  split
  · next first rest listed =>
    rw [getD_eq_iff Json.noConfusion] at listed
    exact absurd (none _ listed) (List.cons_ne_nil first rest)
  · rfl

theorem ofMapping_of_items {version : String} {items : List Json}
    (versioned : Members.HasText data "version" version)
    (listed : Members.get? data "hard_errors" = some (.arr items)) (given : items ≠ []) :
    ofMapping data = (entriesFrom 0 [] items).map (⟨version, ·⟩) := by
  obtain ⟨first, rest, rfl⟩ := List.exists_cons_of_ne_nil given
  rw [← getD_eq_iff Json.noConfusion] at listed
  rw [ofMapping, text?_eq_some_iff.2 versioned, listed]
  dsimp only
  cases entriesFrom 0 [] (first :: rest) <;> rfl

/-- A mapping has no version, no entries, or both of them. -/
theorem mapping_cases (data : Members) :
    (∀ version, ¬Members.HasText data "version" version) ∨
      ∃ version, Members.HasText data "version" version ∧
        ((∀ items, Members.get? data "hard_errors" = some (.arr items) → items = []) ∨
          ∃ items, Members.get? data "hard_errors" = some (.arr items) ∧ items ≠ []) := by
  by_cases versioned : ∃ version, Members.HasText data "version" version
  · obtain ⟨version, versioned⟩ := versioned
    refine .inr ⟨version, versioned, ?_⟩
    by_cases listed : ∃ items, Members.get? data "hard_errors" = some (.arr items) ∧ items ≠ []
    · exact .inr listed
    · exact .inl fun items h => by_contra fun given => listed ⟨items, h, given⟩
  · exact .inl (not_exists.1 versioned)

/-- An entry is found under its code when no two share theirs. -/
theorem entry?_of_nodup {catalog : Catalog} (distinct : catalog.codes.Nodup) :
    ∀ entry ∈ catalog.entries, catalog.entry? entry.code = some entry := by
  intro entry mem
  cases found : catalog.entry? entry.code with
  | none =>
    have other := List.find?_eq_none.1 found entry mem
    simp at other
  | some first =>
    have same : first.code = entry.code := by simpa using List.find?_some found
    rw [List.inj_on_of_nodup_map distinct (List.mem_of_find?_eq_some found) mem same]

theorem codesFor_generated (catalog : Catalog) :
    catalog.codesFor .generated = catalog.codes := by
  have all : ∀ entry ∈ catalog.entries, Profile.generated.includes entry.profile = true :=
    fun _ _ => rfl
  rw [codesFor, List.filter_eq_self.2 all, codes]

theorem codesFor_structural {catalog : Catalog}
    (found : ∀ entry ∈ catalog.entries, catalog.entry? entry.code = some entry) :
    catalog.codesFor .structural = catalog.codes.filter fun code =>
      (catalog.entry? code).any fun entry => entry.profile = .structural := by
  rw [codesFor, codes, List.filter_map]
  congr 1
  refine List.filter_congr fun entry mem => ?_
  rw [Function.comp_apply, found entry mem, Option.any_some]
  cases entry.profile <;> rfl

theorem readFrom_of_entries {catalog : Catalog} {items : List Json}
    (versioned : Members.HasText data "version" catalog.version)
    (listed : Members.get? data "hard_errors" = some (.arr items))
    (read : entriesFrom 0 [] items = .ok catalog.entries) : ReadFrom data catalog := by
  obtain ⟨written, distinct, -⟩ := entriesFrom_eq_ok seen_nil read
  have found := entry?_of_nodup distinct
  exact ⟨versioned, ⟨items, listed, written⟩, distinct, found, codesFor_generated catalog,
    codesFor_structural found⟩

theorem exists_catalog_iff (data : Members) :
    (∃ catalog, ofMapping data = .ok catalog) ↔ WellFormed data := by
  rcases mapping_cases data with none | ⟨version, versioned, none | ⟨items, listed, given⟩⟩
  · rw [ofMapping_of_noVersion none]
    exact iff_of_false nofun fun h => h.version.elim none
  · rw [ofMapping_of_noEntries versioned none]
    refine iff_of_false nofun fun h => ?_
    obtain ⟨items, listed, given, -⟩ := h.entries
    exact given (none items listed)
  · rw [ofMapping_of_items versioned listed given]
    have read : (∃ catalog : Catalog, (entriesFrom 0 [] items).map (⟨version, ·⟩) = .ok catalog) ↔
        ∃ entries, entriesFrom 0 [] items = .ok entries := by
      cases entriesFrom 0 [] items <;> simp [Except.map]
    rw [read]
    refine (exists_entries_iff seen_nil).trans ⟨fun fit => ?_, fun h => ?_⟩
    · exact ⟨⟨version, versioned⟩, items, listed, given, fit⟩
    · obtain ⟨items', listed', -, fit⟩ := h.entries
      cases listed.symm.trans listed'
      exact fit

theorem ofMapping_eq_error_iff (data : Members) (error : CatalogError) :
    ofMapping data = .error error ↔ Rejected data error := by
  rcases mapping_cases data with none | ⟨version, versioned, none | ⟨items, listed, given⟩⟩
  · rw [ofMapping_of_noVersion none, Except.error.injEq]
    refine ⟨fun same => same ▸ .noVersion none, fun h => ?_⟩
    cases h with
    | noVersion => rfl
    | noEntries versioned => exact absurd versioned (none _)
    | entry versioned => exact absurd versioned (none _)
  · rw [ofMapping_of_noEntries versioned none, Except.error.injEq]
    refine ⟨fun same => same ▸ .noEntries versioned none, fun h => ?_⟩
    cases h with
    | noVersion none => exact absurd versioned (none _)
    | noEntries => rfl
    | entry _ listed fault =>
      cases none _ listed
      exact absurd fault not_firstFault_nil
  · rw [ofMapping_of_items versioned listed given, map_eq_error_iff]
    refine (entriesFrom_eq_error_iff seen_nil).trans
      ⟨fun fault => .entry versioned listed fault, fun h => ?_⟩
    cases h with
    | noVersion none => exact absurd versioned (none _)
    | noEntries _ none => exact absurd (none _ listed) given
    | entry _ listed' fault =>
      cases listed.symm.trans listed'
      exact fault

theorem readFrom_of_ok {catalog : Catalog} (read : ofMapping data = .ok catalog) :
    ReadFrom data catalog := by
  rcases mapping_cases data with none | ⟨version, versioned, none | ⟨items, listed, given⟩⟩
  · rw [ofMapping_of_noVersion none] at read
    cases read
  · rw [ofMapping_of_noEntries versioned none] at read
    cases read
  · rw [ofMapping_of_items versioned listed given] at read
    cases entered : entriesFrom 0 [] items with
    | error error =>
      rw [entered] at read
      cases read
    | ok entries =>
      rw [entered] at read
      cases read
      exact readFrom_of_entries versioned listed entered

/-- A mapping gives a catalog exactly when it is well formed, and else the error about the first
thing that is wrong with it. The catalog has the entries of the mapping in their order, each under a
code of its own, and the structural codes are those codes whose entries are structural. -/
theorem ofMapping_exact (data : Members) :
    ((∃ catalog, ofMapping data = .ok catalog) ↔ WellFormed data) ∧
      (∀ error, ofMapping data = .error error ↔ Rejected data error) ∧
      ∀ catalog, ofMapping data = .ok catalog → ReadFrom data catalog :=
  ⟨exists_catalog_iff data, ofMapping_eq_error_iff data, fun _ => readFrom_of_ok⟩

end OfMapping

end Catalog

end WorkflowRepair
