import WorkflowRepair.Graph.Reachable
import WorkflowRepair.Proofs.Graph.Cycle

/-!
The nodes that a closure gathers are those to which a way leads along its pairs. Pairs into a node
that was seen are dropped on the way, which loses nothing, for their ends are seen already.
-/

namespace WorkflowRepair.Graph

open Relation

/-- A pair leads from one node to another. -/
def Joined (pairs : List (String × String)) (a b : String) : Prop := (a, b) ∈ pairs

theorem subset_close (pairs : List (String × String)) (seen : List String) :
    seen ⊆ close pairs seen := by
  fun_induction close pairs seen with
  | case1 pairs seen none => exact List.Subset.refl _
  | case2 pairs seen p found ih => exact List.Subset.trans (List.subset_cons_self _ _) ih

/-- Nothing more can be reached from what a closure gathers. -/
theorem close_closed {pairs : List (String × String)} {seen : List String} {a b : String}
    (mem : a ∈ close pairs seen) (pair : Joined pairs a b) : b ∈ close pairs seen := by
  fun_induction close pairs seen with
  | case1 pairs seen none =>
    have stuck := List.find?_eq_none.1 none (a, b) pair
    simpa [mem] using stuck
  | case2 pairs seen p found ih =>
    by_cases into : b = p.2
    · rw [into]
      exact subset_close _ _ List.mem_cons_self
    · exact ih mem (List.mem_filter.2 ⟨pair, by simpa using into⟩)

/-- Whatever a closure gathers can be reached from what was seen. -/
theorem exists_reach_of_mem_close {pairs : List (String × String)} {seen : List String}
    {b : String} (mem : b ∈ close pairs seen) : ∃ a ∈ seen, ReflTransGen (Joined pairs) a b := by
  fun_induction close pairs seen with
  | case1 pairs seen none => exact ⟨b, mem, .refl⟩
  | case2 pairs seen p found ih =>
    obtain ⟨a, ha, way⟩ := ih mem
    have way : ReflTransGen (Joined pairs) a b :=
      ReflTransGen.mono (fun _ _ pair => (List.mem_filter.1 pair).1) _ _ way
    rcases List.mem_cons.1 ha with rfl | ha
    · have first := List.find?_some found
      rw [Bool.and_eq_true, List.contains_iff_mem] at first
      exact ⟨p.1, first.1, .head (List.mem_of_find?_eq_some found) way⟩
    · exact ⟨a, ha, way⟩

theorem mem_close {pairs : List (String × String)} {seen : List String} {b : String} :
    b ∈ close pairs seen ↔ ∃ a ∈ seen, ReflTransGen (Joined pairs) a b := by
  constructor
  · exact exists_reach_of_mem_close
  · rintro ⟨a, ha, way⟩
    induction way with
    | refl => exact subset_close _ _ ha
    | tail _ pair ih => exact close_closed ih pair

variable {ε : Type} [Arc ε] {edges : List ε} {b : String}

theorem joined_ends_iff {a b : String} : Joined (edges.map Arc.ends) a b ↔ Step edges a b := by
  simp [Joined, Step, Arc.ends]

theorem joined_swap_iff {a b : String} :
    Joined (edges.map fun e => (Arc.target e, Arc.source e)) a b ↔ Step edges b a := by
  simp [Joined, Step, and_comm]

/-- The nodes found forwards are those to which a way leads from a start. -/
theorem mem_forward {starts : List String} :
    b ∈ forward starts edges ↔ ∃ a ∈ starts, ReflTransGen (Step edges) a b := by
  have same : Joined (edges.map Arc.ends) = Step edges := by
    funext a b
    exact propext joined_ends_iff
  rw [forward, mem_close, same]

theorem reach_iff_mem_forward {a : String} :
    ReflTransGen (Step edges) a b ↔ b ∈ forward [a] edges := by
  rw [mem_forward]
  simp only [List.mem_singleton, exists_eq_left]

/-- Whether a way leads from one node to another can be computed. -/
instance decidableReach (edges : List ε) (a b : String) :
    Decidable (ReflTransGen (Step edges) a b) :=
  decidable_of_iff _ reach_iff_mem_forward.symm

/-- The nodes found backwards are those from which a way leads to a start. -/
theorem mem_backward {starts : List String} :
    b ∈ backward starts edges ↔ ∃ a ∈ starts, ReflTransGen (Step edges) b a := by
  have same : Joined (edges.map fun e => (Arc.target e, Arc.source e)) =
      Function.swap (Step edges) := by
    funext a b
    exact propext joined_swap_iff
  simp only [backward, mem_close, same, reflTransGen_swap]

/-- A coverage goes by what the arcs join, whatever else they carry. -/
theorem coverage?_congr {ε' : Type} [Arc ε'] {edges' : List ε'}
    (same : edges'.map Arc.ends = edges.map Arc.ends) (inputs outputs : List String)
    (count : Nat) :
    coverage? inputs outputs edges' count = coverage? inputs outputs edges count := by
  have turned {α : Type} [Arc α] (arcs : List α) :
      arcs.map (fun e => (Arc.target e, Arc.source e)) = (arcs.map Arc.ends).map Prod.swap := by
    rw [List.map_map]
    rfl
  have joined {α : Type} [Arc α] (arcs : List α) :
      Arc.linked arcs = (arcs.map Arc.ends).flatMap fun p => [p.1, p.2] := by
    rw [List.flatMap_map]
    rfl
  rw [coverage?, coverage?, forward, forward, backward, backward, turned, turned, joined, joined,
    same]

theorem mem_linked : b ∈ Arc.linked edges ↔ ∃ e ∈ edges, Arc.source e = b ∨ Arc.target e = b := by
  simp [Arc.linked, eq_comm]

/-- An arc leads on from what is reached forwards, and back from what is reached backwards. -/
theorem coverage?_closed {inputs outputs : List String} {count : Nat} {c : Coverage}
    (found : coverage? inputs outputs edges count = some c) {a b : String} (step : Step edges a b) :
    (a ∈ c.forward → b ∈ c.forward) ∧ (b ∈ c.backward → a ∈ c.backward) := by
  unfold coverage? at found
  split at found
  · cases found
    refine ⟨fun mem => ?_, fun mem => ?_⟩
    · obtain ⟨start, given, way⟩ := mem_forward.1 mem
      exact mem_forward.2 ⟨start, given, way.tail step⟩
    · obtain ⟨start, given, way⟩ := mem_backward.1 mem
      exact mem_backward.2 ⟨start, given, .head step way⟩
  · split at found
    · cases found
    · cases found
      obtain ⟨e, mem, source, target⟩ := step
      exact ⟨fun _ => mem_linked.2 ⟨e, mem, .inr target⟩,
        fun _ => mem_linked.2 ⟨e, mem, .inl source⟩⟩

end WorkflowRepair.Graph
