import WorkflowRepair.Proofs.Listed
import WorkflowRepair.Proofs.Repair.References
import WorkflowRepair.Proofs.Text.EditDistance

/-!
The match of a name by edit distance. It comes to a label exactly when the least number of edits
from the name to the label, both in normal form, is accepted and every other label takes more.
-/

namespace WorkflowRepair.Repair

open Template (normalLabel)
open Text (Edits editDistance isLeast_editDistance)

variable {policy : FuzzyPolicy} {nodes : List Node} {name label : String}

/-- Among the labels only this one is so few edits away from the name, and no other is nearer; all
in normal form. -/
structure Nearest (nodes : List Node) (name label : String) (count : Nat) : Prop where
  known : label ∈ labels nodes
  least : IsLeast {n | Edits n (normalLabel name).toList (normalLabel label).toList} count
  others : ∀ other ∈ labels nodes, other ≠ label →
    ∀ n, Edits n (normalLabel name).toList (normalLabel other).toList → count < n

theorem nodup_labels (nodes : List Node) : (labels nodes).Nodup := nodup_eraseDups _

theorem nearest_iff {count : Nat} : Nearest nodes name label count ↔ label ∈ labels nodes ∧
    editDistance (normalLabel name) (normalLabel label) = count ∧
    ∀ other ∈ labels nodes, other ≠ label →
      count < editDistance (normalLabel name) (normalLabel other) := by
  constructor
  · intro h
    refine ⟨h.known, (isLeast_editDistance _ _).unique h.least, ?_⟩
    intro other mem ne
    exact h.others other mem ne _ (isLeast_editDistance _ _).1
  · rintro ⟨known, rfl, farther⟩
    refine ⟨known, isLeast_editDistance _ _, ?_⟩
    intro other mem ne n edits
    exact Nat.lt_of_lt_of_le (farther other mem ne) ((isLeast_editDistance _ _).2 edits)

/-! ### The nearest labels -/

/-- The labels at a distance from a text. -/
def labelsAt (nodes : List Node) (target : String) (count : Nat) : List String :=
  (labels nodes).filter fun label => editDistance target (normalLabel label) == count

theorem labels_of_scores (nodes : List Node) (target : String) (count : Nat) :
    ((scores nodes target).filter fun s => s.1 == count).map Prod.snd =
      labelsAt nodes target count := by
  rw [scores, List.filter_map, List.map_map, labelsAt]
  exact List.map_id _

theorem mem_labelsAt {target : String} {count : Nat} : label ∈ labelsAt nodes target count ↔
    label ∈ labels nodes ∧ editDistance target (normalLabel label) = count := by
  rw [labelsAt, List.mem_filter, beq_iff_eq]

theorem least_score_iff {target : String} {count : Nat} :
    ((scores nodes target).map Prod.fst).min? = some count ↔
      (∃ label, label ∈ labelsAt nodes target count) ∧
        ∀ other ∈ labels nodes, count ≤ editDistance target (normalLabel other) := by
  simp [List.min?_eq_some_iff, scores, mem_labelsAt]

theorem labelsAt_eq_singleton_iff {target : String} {count : Nat} :
    labelsAt nodes target count = [label] ↔ label ∈ labelsAt nodes target count ∧
      ∀ other ∈ labelsAt nodes target count, other = label := by
  constructor
  · intro alone
    simp [alone]
  · rintro ⟨mem, only⟩
    have distinct : (labelsAt nodes target count).Nodup := (nodup_labels nodes).filter _
    exact List.perm_singleton.1 ((List.perm_ext_iff_of_nodup distinct
      (List.nodup_singleton label)).2 fun other =>
        ⟨fun inside => List.mem_singleton.2 (only other inside),
          fun same => List.mem_singleton.1 same ▸ mem⟩)

theorem nearest_iff_labelsAt {count : Nat} : Nearest nodes name label count ↔
    ((scores nodes (normalLabel name)).map Prod.fst).min? = some count ∧
      labelsAt nodes (normalLabel name) count = [label] := by
  rw [nearest_iff, least_score_iff, labelsAt_eq_singleton_iff]
  constructor
  · rintro ⟨known, near, farther⟩
    have here : label ∈ labelsAt nodes (normalLabel name) count := mem_labelsAt.2 ⟨known, near⟩
    refine ⟨⟨⟨label, here⟩, ?_⟩, here, ?_⟩
    · intro other mem
      by_cases same : other = label
      · rw [same, near]
      · exact Nat.le_of_lt (farther other mem same)
    · intro other inside
      obtain ⟨mem, near'⟩ := mem_labelsAt.1 inside
      by_contra differ
      exact absurd (farther other mem differ) (by omega)
  · rintro ⟨⟨-, below⟩, here, only⟩
    obtain ⟨known, near⟩ := mem_labelsAt.1 here
    refine ⟨known, near, ?_⟩
    intro other mem differ
    refine Nat.lt_of_le_of_ne (below other mem) fun same => ?_
    exact differ (only other (mem_labelsAt.2 ⟨mem, same.symm⟩))

theorem nearestLabel_eq_fuzzy_iff : nearestLabel policy nodes name = .fuzzy label ↔
    ∃ count, Nearest nodes name label count ∧ policy.accepts (normalLabel name) count = true := by
  simp only [nearest_iff_labelsAt, nearestLabel, labels_of_scores]
  cases ((scores nodes (normalLabel name)).map Prod.fst).min? with
  | none => simp
  | some count =>
    have here : (∃ c, (some count = some c ∧ labelsAt nodes (normalLabel name) c = [label]) ∧
        policy.accepts (normalLabel name) c = true) ↔
          labelsAt nodes (normalLabel name) count = [label] ∧
            policy.accepts (normalLabel name) count = true := by
      simp
    rw [here]
    dsimp only
    generalize labelsAt nodes (normalLabel name) count = near
    rcases near with - | ⟨first, - | ⟨second, more⟩⟩
    · simp
    · cases policy.accepts (normalLabel name) count <;> simp
    · simp

/-! ### The match of a name -/

/-- The ways before the edit distance come to nothing: the name is neither empty nor a label, and no
label is found by id, by kind or by normal form. -/
structure Unmatched (nodes : List Node) (name : String) : Prop where
  given : name ≠ ""
  unknown : name ∉ labels nodes
  byId : labelById? nodes name = none
  byKind : matchByKind? nodes name = none
  byForm : labelByForm? nodes name = none

theorem matchByKind?_ne_fuzzy : matchByKind? nodes name ≠ some (.fuzzy label) := by
  unfold matchByKind?
  split
  · simp
  · split
    · simp
    · simp
    · split <;> simp

theorem Unmatched.matchName?_eq (h : Unmatched nodes name) :
    matchName? policy nodes name = some (nearestLabel policy nodes name) := by
  have unsettled : ¬ (name = "" ∨ (labels nodes).contains name = true) := by
    rw [List.contains_iff_mem]
    exact not_or.2 ⟨h.given, h.unknown⟩
  rw [matchName?, if_neg unsettled]
  simp only [h.byId, h.byKind, h.byForm]

theorem unmatched_of_fuzzy (h : matchName? policy nodes name = some (.fuzzy label)) :
    Unmatched nodes name := by
  have unsettled : ¬ (name = "" ∨ name ∈ labels nodes) := by
    intro settled
    rw [matchName?_eq_none_iff.2 settled] at h
    cases h
  obtain ⟨given, unknown⟩ := not_or.1 unsettled
  rw [← List.contains_iff_mem] at unsettled
  rw [matchName?, if_neg unsettled] at h
  split at h
  · cases h
  · next byId =>
    split at h
    · next byKind =>
      rw [h] at byKind
      exact absurd byKind matchByKind?_ne_fuzzy
    · next byKind =>
      split at h
      · cases h
      · next byForm => exact ⟨given, unknown, byId, byKind, byForm⟩

/-- The edit distance is the least number of edits, and a name comes to a label by it exactly when
nothing else matches, the label is the one that takes the fewest edits, and so few are accepted. -/
theorem fuzzy_by_fewest_edits :
    (∀ a b : String, IsLeast {n | Edits n a.toList b.toList} (editDistance a b)) ∧
    ∀ (policy : FuzzyPolicy) (nodes : List Node) (name label : String),
      matchName? policy nodes name = some (.fuzzy label) ↔
        Unmatched nodes name ∧ ∃ count, Nearest nodes name label count ∧
          policy.accepts (normalLabel name) count = true := by
  refine ⟨isLeast_editDistance, fun policy nodes name label => ?_⟩
  rw [← nearestLabel_eq_fuzzy_iff]
  constructor
  · intro h
    have unmatched := unmatched_of_fuzzy h
    rw [unmatched.matchName?_eq] at h
    exact ⟨unmatched, Option.some.inj h⟩
  · rintro ⟨unmatched, fuzzy⟩
    rw [unmatched.matchName?_eq, fuzzy]

/-- One letter is missing, and the other label is farther away. -/
example : matchName? {} [{ data := [("label", .str "Question")] },
    { data := [("label", .str "Answer")] }] "Qestion" = some (.fuzzy "Question") := by
  decide +kernel

end WorkflowRepair.Repair
