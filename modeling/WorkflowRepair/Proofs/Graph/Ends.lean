import WorkflowRepair.Proofs.Graph.Cycle

/-!
Where ways begin and end. In a graph without cycles a way leads from every node to one that no arc
leaves, and to every node from one that no arc enters; the order in which the search for a closing
arc is done with the nodes shows it. So where all nodes but two ends are entered and left, a way
leads from the one end over each node to the other. A cycle goes through nodes that arcs both enter
and leave.
-/

namespace WorkflowRepair.Graph

open Relation

variable {ε : Type} [Arc ε] {edges : List ε}

theorem exists_settled (acyclic : Acyclic edges) (order : List String) :
    ∃ done, Settled edges done ∧ order ⊆ done := by
  have searched : (searchFrom edges [] order).Sound edges [] order := sound_searchFrom .none
  cases found : searchFrom edges [] order with
  | closed e =>
    have back : backEdge? order edges = some e := by rw [backEdge?, found]
    exact absurd (loop_of_backEdge? back).2 (acyclic _)
  | finished done =>
    rw [found] at searched
    cases searched with
    | finished settled _ met => exact ⟨done, settled, met⟩

/-- From a finished node a way leads to one that no arc leaves. -/
theorem Settled.exists_end {done : List String} (h : Settled edges done) {a : String}
    (mem : a ∈ done) : ∃ b, ReflTransGen (Step edges) a b ∧ ∀ c, ¬ Step edges b c := by
  induction h generalizing a with
  | none => cases mem
  | @more first done out _ ih =>
    rcases List.mem_cons.1 mem with rfl | earlier
    · by_cases on : ∃ c, Step edges a c
      · obtain ⟨c, step⟩ := on
        obtain ⟨b, way, last⟩ := ih (out c step)
        exact ⟨b, .head step way, last⟩
      · exact ⟨a, .refl, not_exists.1 on⟩
    · exact ih earlier

theorem exists_end (acyclic : Acyclic edges) (a : String) :
    ∃ b, ReflTransGen (Step edges) a b ∧ ∀ c, ¬ Step edges b c := by
  obtain ⟨done, settled, all⟩ := exists_settled acyclic [a]
  exact settled.exists_end (all List.mem_cons_self)

/-- The arcs of a graph the other way round. -/
def reversed (edges : List ε) : List (String × String) :=
  edges.map fun e => (Arc.target e, Arc.source e)

theorem step_reversed : Step (reversed edges) = Function.swap (Step edges) := by
  funext a b
  refine propext ⟨?_, ?_⟩
  · rintro ⟨pair, mem, rfl, rfl⟩
    obtain ⟨e, here, rfl⟩ := List.mem_map.1 mem
    exact ⟨e, here, rfl, rfl⟩
  · rintro ⟨e, here, rfl, rfl⟩
    exact ⟨_, List.mem_map_of_mem here, rfl, rfl⟩

theorem exists_start (acyclic : Acyclic edges) (b : String) :
    ∃ a, ReflTransGen (Step edges) a b ∧ ∀ c, ¬ Step edges c a := by
  have acyclic' : Acyclic (reversed edges) := by
    intro a loop
    rw [step_reversed, transGen_swap] at loop
    exact acyclic a loop
  obtain ⟨a, way, first⟩ := exists_end acyclic' b
  rw [step_reversed] at way first
  exact ⟨a, reflTransGen_swap.1 way, first⟩

/-- On a cycle every step leads from a node with a step into it to one with a step out of it. -/
theorem loop_within {α : Type} {step : α → α → Prop} {a : α} (loop : TransGen step a a) :
    TransGen (fun x y => step x y ∧ (∃ z, step z x) ∧ ∃ z, step y z) a a := by
  have into {b : α} (way : TransGen step a b) : ∃ z, step z b := by
    obtain ⟨z, -, last⟩ := TransGen.tail'_iff.1 way
    exact ⟨z, last⟩
  obtain ⟨next, first, -⟩ := TransGen.head'_iff.1 loop
  have along {b : α} (way : TransGen step a b) (on : ∃ z, step b z) :
      TransGen (fun x y => step x y ∧ (∃ z, step z x) ∧ ∃ z, step y z) a b := by
    induction way with
    | single step => exact .single ⟨step, into loop, on⟩
    | tail before step ih => exact .tail (ih ⟨_, step⟩) ⟨step, into before, on⟩
  exact along loop ⟨next, first⟩

/-! ### Graphs with two ends -/

/-- Every node but the two ends is entered, and every one but the last is left. -/
structure Ended (ids : List String) (edges : List ε) (first last : String) : Prop where
  anchored : ∀ e ∈ edges, Arc.source e ∈ ids ∧ Arc.target e ∈ ids
  begins : first ∈ ids
  apart : first ≠ last
  entered : ∀ id ∈ ids, id ≠ first → id ≠ last → ∃ a, Step edges a id
  left : ∀ id ∈ ids, id ≠ last → ∃ b, Step edges id b

namespace Ended

variable {ids : List String} {first last : String}

theorem mem_of_step (h : Ended ids edges first last) {a b : String} (step : Step edges a b) :
    a ∈ ids ∧ b ∈ ids := by
  obtain ⟨e, mem, rfl, rfl⟩ := step
  exact h.anchored e mem

/-- Without a cycle a way leads from each node to the last. -/
theorem reach_last (h : Ended ids edges first last) (acyclic : Acyclic edges) {id : String}
    (mem : id ∈ ids) : ReflTransGen (Step edges) id last := by
  obtain ⟨b, way, none⟩ := exists_end acyclic id
  have here : b ∈ ids := by
    rcases ReflTransGen.cases_tail way with same | ⟨a, -, step⟩
    · exact same ▸ mem
    · exact (h.mem_of_step step).2
  by_cases ends : b = last
  · exact ends ▸ way
  · obtain ⟨c, step⟩ := h.left b here ends
    exact absurd step (none c)

/-- Without a cycle a way leads from the first node to each; the last node is entered on the way
from the first. -/
theorem reach_first (h : Ended ids edges first last) (acyclic : Acyclic edges) {id : String}
    (mem : id ∈ ids) : ReflTransGen (Step edges) first id := by
  obtain ⟨a, way, none⟩ := exists_start acyclic id
  have here : a ∈ ids := by
    rcases ReflTransGen.cases_head way with same | ⟨b, step, -⟩
    · exact same ▸ mem
    · exact (h.mem_of_step step).1
  by_cases begins : a = first
  · exact begins ▸ way
  · by_cases ends : a = last
    · rcases ReflTransGen.cases_tail (h.reach_last acyclic h.begins) with same | ⟨b, -, step⟩
      · exact absurd same.symm h.apart
      · exact absurd (ends ▸ step) (none b)
    · obtain ⟨b, step⟩ := h.entered a here begins ends
      exact absurd step (none b)

/-- There is no cycle exactly when nothing leads into the first node or out of the last, provided
that the other nodes form none. -/
theorem acyclic_iff (h : Ended ids edges first last) {old : List ε}
    (acyclic : Acyclic old)
    (between : ∀ a b, Step edges a b → a ≠ first → a ≠ last → b ≠ first → b ≠ last →
      Step old a b) :
    Acyclic edges ↔ ∀ a, ¬ Step edges a first ∧ ¬ Step edges last a := by
  constructor
  · intro acyclic a
    refine ⟨fun step => acyclic a ?_, fun step => acyclic last ?_⟩
    · exact .head' step (h.reach_first acyclic (h.mem_of_step step).1)
    · exact .head' step (h.reach_last acyclic (h.mem_of_step step).2)
  · intro clean a loop
    refine acyclic a (TransGen.mono ?_ _ _ (loop_within loop))
    rintro x y ⟨step, ⟨z, into⟩, z', out⟩
    refine between x y step ?_ ?_ ?_ ?_
    · rintro rfl
      exact (clean z).1 into
    · rintro rfl
      exact (clean y).2 step
    · rintro rfl
      exact (clean x).1 step
    · rintro rfl
      exact (clean z').2 out

end Ended

end WorkflowRepair.Graph
