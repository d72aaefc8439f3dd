import WorkflowRepair.Validation.Settings

/-!
When a retrieval node is complete: it has a query, and it searches a store or is given files, as its
mode says. A mode that is not given is taken from what there is, a store before files.
-/

namespace WorkflowRepair.Validation

/-- The mode in which a retrieval node says that it works, empty when it says none. -/
def givenMode (data : Members) : String := (Members.getD data "fileMode").strD

/-- A retrieval node has a query. -/
def HasQuery (data : Members) : Prop := isFilled (Members.getD (mappings data) "query") = true

/-- A retrieval node names the store to search. -/
def HasStore (data : Members) : Prop :=
  Text.isBlankText (Members.getD data "fileSearchStoreName").strD = false

/-- A retrieval node is given files. -/
def HasFiles (data : Members) : Prop :=
  ∃ key ∈ ["files", "files2", "files3"], (Members.getD (mappings data) key).isSet = true

/-- The rule of retrieval from a store. -/
structure RetrievesStatic (data : Members) : Prop where
  mode : givenMode data = "static" ∨ givenMode data = ""
  query : HasQuery data
  store : HasStore data

/-- The rule of retrieval from files. -/
structure RetrievesVariable (data : Members) : Prop where
  mode : givenMode data = "variable" ∨ givenMode data = ""
  query : HasQuery data
  files : HasFiles data

theorem any_files_iff {data : Members} :
    (["files", "files2", "files3"].any fun key => (Members.getD (mappings data) key).isSet) = true ↔
      HasFiles data := List.any_eq_true

/-- A mode that is not given is taken from what there is, a store before files. -/
theorem retrievalMode_store {data : Members} (none : givenMode data = "") (store : HasStore data) :
    retrievalMode data = "static" := by
  unfold givenMode at none
  unfold HasStore at store
  simp [retrievalMode, none, store]

theorem retrievalMode_files {data : Members} (none : givenMode data = "") (store : ¬ HasStore data)
    (files : HasFiles data) : retrievalMode data = "variable" := by
  unfold givenMode at none
  rw [HasStore, Bool.not_eq_false] at store
  rw [← any_files_iff] at files
  simp only [retrievalMode, none, store, files]
  rfl

theorem retrievalMode_none {data : Members} (none : givenMode data = "") (store : ¬ HasStore data)
    (files : ¬ HasFiles data) : retrievalMode data = "" := by
  unfold givenMode at none
  rw [HasStore, Bool.not_eq_false] at store
  rw [← any_files_iff, Bool.not_eq_true] at files
  simp only [retrievalMode, none, store, files]
  rfl

theorem complete_static {data : Members} (mode : retrievalMode data = "static") :
    retrievalComplete data = true ↔ HasQuery data ∧ HasStore data := by
  simp [retrievalComplete, mode, HasQuery, HasStore]

theorem complete_variable {data : Members} (mode : retrievalMode data = "variable") :
    retrievalComplete data = true ↔ HasQuery data ∧ HasFiles data := by
  simp only [retrievalComplete, mode, Bool.and_eq_true, any_files_iff, HasQuery]

theorem mode_of_complete {data : Members} (h : retrievalComplete data = true) :
    retrievalMode data = "static" ∨ retrievalMode data = "variable" := by
  unfold retrievalComplete at h
  split at h
  · next mode => exact .inr mode
  · next mode => exact .inl mode
  · cases h

/-- A retrieval node is complete exactly when one of the two rules holds. -/
theorem retrievalComplete_iff {data : Members} :
    retrievalComplete data = true ↔ RetrievesStatic data ∨ RetrievesVariable data := by
  by_cases none : givenMode data = ""
  · by_cases store : HasStore data
    · rw [complete_static (retrievalMode_store none store)]
      constructor
      · rintro ⟨query, -⟩
        exact .inl ⟨.inr none, query, store⟩
      · rintro (⟨-, query, -⟩ | ⟨-, query, -⟩)
        · exact ⟨query, store⟩
        · exact ⟨query, store⟩
    · by_cases files : HasFiles data
      · rw [complete_variable (retrievalMode_files none store files)]
        constructor
        · rintro ⟨query, -⟩
          exact .inr ⟨.inr none, query, files⟩
        · rintro (⟨-, -, named⟩ | ⟨-, query, -⟩)
          · exact absurd named store
          · exact ⟨query, files⟩
      · constructor
        · intro complete
          rcases mode_of_complete complete with mode | mode
          · rw [retrievalMode_none none store files] at mode
            exact absurd mode (by decide)
          · rw [retrievalMode_none none store files] at mode
            exact absurd mode (by decide)
        · rintro (⟨-, -, named⟩ | ⟨-, -, given⟩)
          · exact absurd named store
          · exact absurd given files
  · have same : retrievalMode data = givenMode data := if_pos none
    constructor
    · intro complete
      rcases mode_of_complete complete with mode | mode
      · obtain ⟨query, store⟩ := (complete_static mode).1 complete
        exact .inl ⟨.inl (same ▸ mode), query, store⟩
      · obtain ⟨query, files⟩ := (complete_variable mode).1 complete
        exact .inr ⟨.inl (same ▸ mode), query, files⟩
    · rintro (⟨mode | mode, query, store⟩ | ⟨mode | mode, query, files⟩)
      · exact (complete_static (same.trans mode)).2 ⟨query, store⟩
      · exact absurd mode none
      · exact (complete_variable (same.trans mode)).2 ⟨query, files⟩
      · exact absurd mode none

theorem retrievalFindings_eq_nil_iff {node : Node} :
    retrievalFindings node = [] ↔
      (node.isKind .rag = true → RetrievesStatic node.data ∨ RetrievesVariable node.data) := by
  rw [← retrievalComplete_iff]
  simp [retrievalFindings]

theorem allNodeFindings_structural (nodes : List Node) :
    allNodeFindings .structural nodes = .ok (nodes.flatMap retrievalFindings) := by
  induction nodes with
  | nil => rfl
  | cons node rest ih => simp [allNodeFindings, nodeFindings, ih]

end WorkflowRepair.Validation
