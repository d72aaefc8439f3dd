import Mathlib.Data.List.TakeWhile
import WorkflowRepair.Proofs.Number.Order
import WorkflowRepair.Proofs.Validation.Edges
import WorkflowRepair.Proofs.Validation.Settings

/-!
When the rules on the settings of generated workflows find nothing, kind by kind. What a form field
may be called is left open: the rule asks for an identifier, and lets one line feed pass at its end.
-/

namespace WorkflowRepair.Validation

variable {data : Members} {node : Node} {key : String} {value : Json}

/-- The value stands under a key of the input mappings. -/
def Mapped (data : Members) (key : String) (value : Json) : Prop :=
  ∃ settings, Members.getD data "inputMappings" = .obj settings ∧
    Members.getD settings key = value

theorem mapped_iff (given : value ≠ .null) :
    Members.getD (mappings data) key = value ↔ Mapped data key value := by
  unfold mappings Mapped
  cases Members.getD data "inputMappings" with
  | obj settings => simp [Json.obj?]
  | _ => simp [Json.obj?, Members.getD, Members.get?, given.symm]

theorem mapped_str_iff {s : String} :
    Members.getD (mappings data) key = .str s ↔ Mapped data key (.str s) := mapped_iff nofun

theorem isFilled_iff :
    isFilled value = true ↔ ∃ s, value = .str s ∧ Text.isBlankText s = false := by
  cases value <;> simp [isFilled]

theorem isFilled_mappings_iff : isFilled (Members.getD (mappings data) key) = true ↔
    ∃ s, Mapped data key (.str s) ∧ Text.isBlankText s = false := by
  simp only [isFilled_iff, mapped_str_iff]

/-! ### Language models -/

/-- A number of the unit interval. -/
def UnitNumber (value : Json) : Prop :=
  ∃ n q, value = .num n ∧ n.value? = some q ∧ 0 ≤ q ∧ q ≤ 1

/-- The settings of a language model. -/
structure ChatReady (data : Members) : Prop where
  input : ∃ s, Mapped data "user_input" (.str s) ∧ Text.isBlankText s = false
  texts : ∀ key ∈ ["model", "systemPrompt"], ∀ value, Members.get? data key = some value →
    ∃ s, value = .str s
  temperature : ∀ value, Members.get? data "temperature" = some value → UnitNumber value
  format : ∀ value, Members.get? data "responseFormat" = some value →
    value = .str "text" ∨ value = .str "json_object"

theorem inUnitInterval_iff {n : Number} :
    inUnitInterval n = true ↔ ∃ q, n.value? = some q ∧ 0 ≤ q ∧ q ≤ 1 := by
  have between := @Number.between_iff n 0 1
  rw [Int.cast_zero, Int.cast_one] at between
  exact between

theorem holdsInt_of_inUnitInterval {i : Int} (h : inUnitInterval (.int i) = true) :
    Double.holdsInt i = true := by
  obtain ⟨q, value, low, high⟩ := inUnitInterval_iff.1 h
  obtain rfl : (i : ℚ) = q := Option.some.inj value
  have low : 0 ≤ i := Int.cast_nonneg_iff.1 low
  have high : i ≤ 1 := by exact_mod_cast high
  have small : 1 < Nat.pow 2 1024 - Nat.pow 2 970 := by decide +kernel
  exact decide_eq_true (by omega)

theorem temperatureAccepted_iff : temperatureAccepted value = .ok true ↔ UnitNumber value := by
  unfold temperatureAccepted UnitNumber
  split
  · next i =>
    simp only [Json.num.injEq, exists_and_left, exists_eq_left', ← inUnitInterval_iff]
    constructor
    · intro accepted
      split at accepted
      · exact Except.ok.inj accepted
      · cases accepted
    · intro inside
      rw [if_pos (holdsInt_of_inUnitInterval inside), inside]
  · simp [← inUnitInterval_iff]
  · next other other' =>
    refine iff_of_false nofun ?_
    rintro ⟨n, q, rfl, -⟩
    cases n with
    | int i => exact other i rfl
    | double d => exact other' d rfl

theorem temperatureFindings_eq_nil_iff : temperatureFindings node = .ok [] ↔
    ∀ value, Members.get? node.data "temperature" = some value → UnitNumber value := by
  unfold temperatureFindings
  cases Members.get? node.data "temperature" with
  | none => simp
  | some value =>
    simp only [Option.some.injEq, forall_eq', ← temperatureAccepted_iff]
    rcases temperatureAccepted value with fault | accepted
    · simp
    · cases accepted <;> simp

theorem textSettingFindings_eq_nil_iff : textSettingFindings node = [] ↔
    ∀ key ∈ ["model", "systemPrompt"], ∀ value, Members.get? node.data key = some value →
      ∃ s, value = .str s := by
  rw [textSettingFindings, List.filterMap_eq_nil_iff]
  refine forall₂_congr fun key _ => ?_
  cases Members.get? node.data key with
  | none => simp
  | some value => cases value <;> simp

theorem responseFormatFindings_eq_nil_iff : responseFormatFindings node = [] ↔
    ∀ value, Members.get? node.data "responseFormat" = some value →
      value = .str "text" ∨ value = .str "json_object" := by
  unfold responseFormatFindings
  split
  · next none => simp [none]
  · next found => simp [found]
  · next found => simp [found]
  · next notText notJson found =>
    refine iff_of_false nofun fun allowed => ?_
    rcases allowed _ found with rfl | rfl
    · exact notText rfl
    · exact notJson rfl

theorem llmFindings_eq_nil_iff : llmFindings node = .ok [] ↔ ChatReady node.data := by
  have input : userInputFindings node = [] ↔
      ∃ s, Mapped node.data "user_input" (.str s) ∧ Text.isBlankText s = false := by
    rw [← isFilled_mappings_iff, userInputFindings]
    simp
  have parts : llmFindings node = .ok [] ↔ textSettingFindings node = [] ∧
      userInputFindings node = [] ∧ temperatureFindings node = .ok [] ∧
      responseFormatFindings node = [] := by
    unfold llmFindings
    cases temperatureFindings node <;> simp
  rw [parts, textSettingFindings_eq_nil_iff, input, temperatureFindings_eq_nil_iff,
    responseFormatFindings_eq_nil_iff]
  constructor
  · rintro ⟨texts, input, temperature, format⟩
    exact ⟨input, texts, temperature, format⟩
  · rintro ⟨input, texts, temperature, format⟩
    exact ⟨texts, input, temperature, format⟩

/-! ### Outputs -/

/-- The settings of an output: its mode and what the mode needs. -/
inductive OutputReady (data : Members) : Prop
  | direct (source : Json) : Mapped data "mode" (.str "direct") →
      Mapped data "sources" (.arr [source]) → OutputReady data
  | several (mode : String) (first : Json) (more : List Json) : mode ∈ ["select", "merge"] →
      Mapped data "mode" (.str mode) → Mapped data "sources" (.arr (first :: more)) →
      OutputReady data
  | template (text : String) : Mapped data "mode" (.str "template") →
      Mapped data "template" (.str text) → Text.isBlankText text = false → OutputReady data

theorem sources_eq_iff {first : Json} {more : List Json} :
    ((Members.getD (mappings data) "sources").arr?).getD [] = first :: more ↔
      Mapped data "sources" (.arr (first :: more)) := by
  have given : Json.arr (first :: more) ≠ .null := nofun
  rw [← mapped_iff given]
  cases Members.getD (mappings data) "sources" <;> simp [Json.arr?]

theorem exists_source_iff :
    (((Members.getD (mappings data) "sources").arr?).getD []).length = 1 ↔
      ∃ source, Mapped data "sources" (.arr [source]) := by
  simp only [List.length_eq_one_iff, sources_eq_iff]

theorem exists_sources_iff :
    (((Members.getD (mappings data) "sources").arr?).getD []).isEmpty = false ↔
      ∃ first more, Mapped data "sources" (.arr (first :: more)) := by
  simp only [← sources_eq_iff]
  cases ((Members.getD (mappings data) "sources").arr?).getD [] <;> simp

theorem OutputReady.mode (h : OutputReady data) :
    ∃ mode ∈ ["direct", "select", "merge", "template"],
      Members.getD (mappings data) "mode" = .str mode := by
  cases h with
  | direct _ given _ => exact ⟨_, by decide, mapped_str_iff.2 given⟩
  | several mode _ _ allowed given _ =>
    exact ⟨mode, List.mem_cons_of_mem _ (List.mem_append_left ["template"] allowed),
      mapped_str_iff.2 given⟩
  | template _ given _ _ => exact ⟨_, by decide, mapped_str_iff.2 given⟩

/-- What an output needs in a mode. -/
theorem outputReady_iff {mode : String}
    (found : Members.getD (mappings data) "mode" = .str mode) : OutputReady data ↔
      mode = "direct" ∧ (∃ source, Mapped data "sources" (.arr [source])) ∨
      mode ∈ ["select", "merge"] ∧ (∃ first more, Mapped data "sources" (.arr (first :: more))) ∨
      mode = "template" ∧
        ∃ text, Mapped data "template" (.str text) ∧ Text.isBlankText text = false := by
  have same {other : String} (given : Mapped data "mode" (.str other)) : mode = other :=
    Json.str.inj (found.symm.trans (mapped_str_iff.2 given))
  have given : Mapped data "mode" (.str mode) := mapped_str_iff.1 found
  constructor
  · intro ready
    cases ready with
    | direct source is mapped => exact .inl ⟨same is, source, mapped⟩
    | several other first more allowed is mapped =>
      exact .inr (.inl ⟨same is ▸ allowed, first, more, mapped⟩)
    | template text is mapped filled => exact .inr (.inr ⟨same is, text, mapped, filled⟩)
  · rintro (⟨rfl, source, mapped⟩ | ⟨allowed, first, more, mapped⟩ | ⟨rfl, text, mapped, filled⟩)
    · exact .direct source given mapped
    · exact .several mode first more allowed given mapped
    · exact .template text given mapped filled

theorem outputFindings_eq_nil_iff : outputFindings node = [] ↔ OutputReady node.data := by
  have nil_iff (p : Prop) [Decidable p] (finding : Finding) :
      (if p then [] else [finding]) = [] ↔ p := by simp
  unfold outputFindings
  dsimp only
  split
  · next unset =>
    refine iff_of_false nofun fun ready => ?_
    obtain ⟨mode, allowed, found⟩ := ready.mode
    rw [found] at unset
    have set : ∀ mode ∈ ["direct", "select", "merge", "template"],
        (!(Json.str mode).isSet) = false := by decide
    rw [set mode allowed] at unset
    cases unset
  · split
    · next found =>
      rw [nil_iff, isFilled_mappings_iff, outputReady_iff found]
      simp
    · next found =>
      rw [nil_iff, exists_source_iff, outputReady_iff found]
      simp
    · next found =>
      rw [ite_eq_right_iff, outputReady_iff found]
      simp [← exists_sources_iff]
    · next found =>
      rw [ite_eq_right_iff, outputReady_iff found]
      simp [← exists_sources_iff]
    · next template direct select merge =>
      refine iff_of_false nofun fun ready => ?_
      obtain ⟨mode, allowed, found⟩ := ready.mode
      simp only [List.mem_cons, List.not_mem_nil, or_false] at allowed
      rcases allowed with rfl | rfl | rfl | rfl
      · exact direct found
      · exact select found
      · exact merge found
      · exact template found

/-! ### Forms -/

/-- A letter or an underscore, and then only such or digits. -/
def Identifier (s : String) : Prop :=
  ∃ c rest, s.toList = c :: rest ∧ startsName c = true ∧ ∀ d ∈ rest, continuesName d = true

/-- An identifier, or one with a line feed behind it. -/
def FieldName (s : String) : Prop :=
  Identifier s ∨ ∃ name, Identifier name ∧ s = name ++ "\n"

theorem endsLikeName_iff {cs : List Char} : endsLikeName cs = true ↔
    (∀ c ∈ cs, continuesName c = true) ∨
      ∃ front, (∀ c ∈ front, continuesName c = true) ∧ cs = front ++ ['\n'] := by
  have split := @List.takeWhile_append_dropWhile _ continuesName cs
  have front : ∀ c ∈ cs.takeWhile continuesName, continuesName c = true :=
    fun c mem => List.mem_takeWhile_imp mem
  have lineFeed : continuesName '\n' = false := by decide
  unfold endsLikeName
  constructor
  · intro h
    split at h
    · next none =>
      rw [none, List.append_nil] at split
      exact .inl (split ▸ front)
    · next one =>
      rw [one] at split
      exact .inr ⟨_, front, split.symm⟩
    · cases h
  · rintro (all | ⟨front, all, rfl⟩)
    · rw [List.dropWhile_eq_nil_iff.2 all]
    · rw [List.dropWhile_append_of_pos all, List.dropWhile_cons_of_neg (by simp [lineFeed])]
      rfl

theorem isFieldName_iff {s : String} : isFieldName s = true ↔ FieldName s := by
  have chars (c : Char) (rest : List Char) (whole : s.toList = c :: rest) :
      isFieldName s = true ↔ startsName c = true ∧ endsLikeName rest = true := by
    rw [isFieldName, whole, Bool.and_eq_true]
  constructor
  · intro h
    cases whole : s.toList with
    | nil =>
      rw [isFieldName, whole] at h
      cases h
    | cons c rest =>
      obtain ⟨starts, ends⟩ := (chars c rest whole).1 h
      rcases endsLikeName_iff.1 ends with all | ⟨front, all, rfl⟩
      · exact .inl ⟨c, rest, whole, starts, all⟩
      · refine .inr ⟨String.ofList (c :: front), ⟨c, front, String.toList_ofList, starts, all⟩, ?_⟩
        rw [← String.toList_inj, whole, String.toList_append, String.toList_ofList]
        rfl
  · rintro (⟨c, rest, whole, starts, all⟩ | ⟨name, ⟨c, rest, front, starts, all⟩, rfl⟩)
    · exact (chars c rest whole).2 ⟨starts, endsLikeName_iff.2 (.inl all)⟩
    · have whole : (name ++ "\n").toList = c :: (rest ++ ['\n']) := by
        rw [String.toList_append, front]
        rfl
      exact (chars c _ whole).2 ⟨starts, endsLikeName_iff.2 (.inr ⟨rest, all, rfl⟩)⟩

/-- A structured form has fields, each with a name of the given sort. -/
def FormReady (named : String → Prop) (data : Members) : Prop :=
  Members.getD data "enableStructuredForm" = .bool true →
    ∃ first more, Members.getD data "formFields" = .arr (first :: more) ∧
      ∀ field ∈ first :: more, ∃ name, field.field "name" = .str name ∧ named name

theorem fieldNamed_iff {field : Json} :
    fieldNamed field = true ↔ ∃ name, field.field "name" = .str name ∧ FieldName name := by
  unfold fieldNamed
  split
  · next name found => simp [found, isFieldName_iff]
  · next other =>
    refine iff_of_false nofun ?_
    rintro ⟨name, found, -⟩
    exact other name found

theorem fieldFindings_eq_nil_iff {id : String} {place : Nat} {fields : List Json} :
    fieldFindings id place fields = [] ↔ ∀ field ∈ fields, fieldNamed field = true := by
  induction fields generalizing place with
  | nil => simp [fieldFindings]
  | cons field rest ih =>
    rw [List.forall_mem_cons, ← @ih (place + 1), fieldFindings]
    split
    · next named => simp [named]
    · next unnamed => simp [unnamed]

theorem formFindings_eq_nil_iff : formFindings node = [] ↔ FormReady FieldName node.data := by
  unfold formFindings FormReady
  split
  · next enabled =>
    simp only [enabled, true_imp_iff, ← fieldNamed_iff]
    cases given : Members.getD node.data "formFields" with
    | arr items =>
      cases items with
      | nil => simp [Json.arr?]
      | cons first more => simp [Json.arr?, fieldFindings_eq_nil_iff]
    | _ => simp [Json.arr?]
  · next off => simp [off]

/-- A file upload goes with a required text, and says what files it takes. -/
def UploadReady (data : Members) : Prop :=
  Members.getD data "enableFileInput" = .bool true →
    Members.getD data "enableTextInput" ≠ .bool false ∧
    Members.getD data "textRequired" = .bool true ∧
    fileConfigComplete (Members.getD data "fileConfig") = true

theorem uploadFindings_eq_nil_iff : uploadFindings node = [] ↔ UploadReady node.data := by
  unfold uploadFindings UploadReady
  dsimp only
  split
  · next enabled => simp [enabled]
  · next off => simp [off]

/-! ### Nodes -/

/-- The settings of a node are complete for its kind. -/
structure SettingsReady (named : String → Prop) (node : Node) : Prop where
  chat : node.isKind .llm = true → ChatReady node.data
  tool : node.isKind .tool = true → (Members.getD node.data "toolType").isSet = true
  output : node.isKind .output = true → OutputReady node.data
  form : node.isKind .input = true → FormReady named node.data
  upload : node.isKind .input = true → UploadReady node.data

theorem settingFindings_eq_nil_iff :
    settingFindings node = .ok [] ↔ SettingsReady FieldName node := by
  have parts : SettingsReady FieldName node ↔
      (node.isKind .llm = true → ChatReady node.data) ∧
      (node.isKind .tool = true → (Members.getD node.data "toolType").isSet = true) ∧
      (node.isKind .output = true → OutputReady node.data) ∧
      (node.isKind .input = true → FormReady FieldName node.data) ∧
      (node.isKind .input = true → UploadReady node.data) :=
    ⟨fun h => ⟨h.chat, h.tool, h.output, h.form, h.upload⟩, fun ⟨c, t, o, f, u⟩ => ⟨c, t, o, f, u⟩⟩
  rw [parts, settingFindings]
  simp only [Node.isKind, ← llmFindings_eq_nil_iff, ← outputFindings_eq_nil_iff,
    ← formFindings_eq_nil_iff, ← uploadFindings_eq_nil_iff]
  rcases node.kind with - | (- | - | - | - | - | - | -) <;> simp [toolFindings]

theorem allNodeFindings_generated_eq_nil_iff {nodes : List Node} :
    allNodeFindings .generated nodes = .ok [] ↔
      ∀ n ∈ nodes, retrievalFindings n = [] ∧ settingFindings n = .ok [] := by
  induction nodes with
  | nil => simp [allNodeFindings]
  | cons node rest ih =>
    rw [List.forall_mem_cons, ← ih, allNodeFindings, nodeFindings]
    cases settingFindings node with
    | error fault => simp
    | ok settings => cases allNodeFindings .generated rest <;> simp [and_assoc]

end WorkflowRepair.Validation
