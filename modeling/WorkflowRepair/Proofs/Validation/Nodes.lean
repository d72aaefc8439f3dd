import Mathlib.Data.List.Nodup
import WorkflowRepair.Validation.Nodes

/-!
When nothing is wrong with the identities of nodes: each has an id and a type, and no id repeats.
Then every node is one that the further rules look at. Of any nodes, those that the further rules
look at are such nodes.
-/

namespace WorkflowRepair.Validation

/-- No two items have the same value of a function, and none has one that was seen before. -/
def Fresh {α β : Type} (f : α → β) (seen : List β) (items : List α) : Prop :=
  (items.map f).Nodup ∧ ∀ a ∈ items, f a ∉ seen

theorem fresh_cons {α β : Type} {f : α → β} {seen : List β} {a : α} {rest : List α} :
    Fresh f seen (a :: rest) ↔ f a ∉ seen ∧ Fresh f (f a :: seen) rest := by
  simp only [Fresh, List.map_cons, List.nodup_cons, List.forall_mem_cons]
  constructor
  · rintro ⟨⟨once, distinct⟩, new, fresh⟩
    refine ⟨new, distinct, fun b hb => ?_⟩
    refine List.not_mem_cons_of_ne_of_not_mem (fun same => ?_) (fresh b hb)
    exact once (same ▸ List.mem_map_of_mem hb)
  · rintro ⟨new, distinct, fresh⟩
    refine ⟨⟨fun mem => ?_, distinct⟩, new, fun b hb => List.not_mem_of_not_mem_cons (fresh b hb)⟩
    obtain ⟨b, hb, same⟩ := List.mem_map.1 mem
    exact List.ne_of_not_mem_cons (fresh b hb) same

theorem fresh_nil_iff {α β : Type} {f : α → β} {items : List α} :
    Fresh f [] items ↔ (items.map f).Nodup :=
  and_iff_left fun _ _ => List.not_mem_nil

/-- A node has an id without blanks, and a type. -/
structure Identified (node : Node) : Prop where
  id : node.id ≠ ""
  type : node.type ≠ ""
  solid : ∀ c ∈ node.id.toList, Text.isBlank c = false

theorem identityFinding?_eq_none_iff {seen : List String} {node : Node} :
    identityFinding? seen node = none ↔ Identified node ∧ node.id ∉ seen := by
  unfold identityFinding?
  constructor
  · intro h
    split at h
    · cases h
    · next given =>
      split at h
      · cases h
      · next solid =>
        split at h
        · cases h
        · next new =>
          rw [not_or] at given
          simp only [List.any_eq_true, not_exists, not_and, Bool.not_eq_true] at solid
          exact ⟨⟨given.1, given.2, solid⟩, fun old => new (List.contains_iff_mem.2 old)⟩
  · rintro ⟨⟨id, type, solid⟩, new⟩
    have unblank : ¬ node.id.toList.any Text.isBlank = true := by
      simpa [List.any_eq_true] using solid
    rw [if_neg (not_or.2 ⟨id, type⟩), if_neg unblank, if_neg (by simpa using new)]

/-- Nothing is wrong with the identities of nodes exactly when each has one of its own. -/
theorem identityFindings_eq_nil_iff {seen : List String} {nodes : List Node} :
    identityFindings seen nodes = [] ↔ (∀ n ∈ nodes, Identified n) ∧ Fresh Node.id seen nodes := by
  induction nodes generalizing seen with
  | nil => simp [identityFindings, Fresh]
  | cons node rest ih =>
    unfold identityFindings
    rw [fresh_cons, List.forall_mem_cons]
    cases found : identityFinding? seen node with
    | some finding =>
      refine ⟨nofun, fun ⟨⟨named, _⟩, new, _⟩ => ?_⟩
      rw [identityFinding?_eq_none_iff.2 ⟨named, new⟩] at found
      cases found
    | none =>
      obtain ⟨named, new⟩ := identityFinding?_eq_none_iff.1 found
      rw [ih]
      constructor
      · rintro ⟨all, fresh⟩
        exact ⟨⟨named, all⟩, new, fresh⟩
      · rintro ⟨⟨-, all⟩, -, fresh⟩
        exact ⟨all, fresh⟩

theorem soundNodes_eq_self {seen : List String} {nodes : List Node}
    (h : identityFindings seen nodes = []) : soundNodes seen nodes = nodes := by
  induction nodes generalizing seen with
  | nil => rfl
  | cons node rest ih =>
    unfold identityFindings at h
    unfold soundNodes
    cases found : identityFinding? seen node with
    | some finding =>
      rw [found] at h
      cases h
    | none =>
      rw [found] at h
      exact congrArg (node :: ·) (ih h)

/-- Nothing is wrong with the identities of the nodes that are kept. -/
theorem identityFindings_soundNodes (seen : List String) (nodes : List Node) :
    identityFindings seen (soundNodes seen nodes) = [] := by
  induction nodes generalizing seen with
  | nil => rfl
  | cons node rest ih =>
    unfold soundNodes
    cases found : identityFinding? seen node with
    | some finding => exact ih seen
    | none =>
      simp only [identityFindings, found]
      exact ih _

theorem identified_of_mem_soundNodes {seen : List String} {nodes : List Node} {n : Node}
    (mem : n ∈ soundNodes seen nodes) : Identified n :=
  (identityFindings_eq_nil_iff.1 (identityFindings_soundNodes seen nodes)).1 n mem

/-- Where no id is given twice, two nodes with the same id are one, unless they have none. -/
theorem eq_of_same_id {nodes : List Node} (once : ((nodes.map Node.id).filter (· ≠ "")).Nodup)
    {n n' : Node} (mem : n ∈ nodes) (mem' : n' ∈ nodes) (given : n.id ≠ "")
    (same : n.id = n'.id) : n = n' := by
  rw [List.filter_map] at once
  refine List.inj_on_of_nodup_map once (List.mem_filter.2 ⟨mem, ?_⟩) (List.mem_filter.2 ⟨mem', ?_⟩)
    same
  · simpa using given
  · simpa [← same] using given

theorem nodup_soundNodes (nodes : List Node) : ((soundNodes [] nodes).map Node.id).Nodup :=
  fresh_nil_iff.1 (identityFindings_eq_nil_iff.1 (identityFindings_soundNodes [] nodes)).2

end WorkflowRepair.Validation
