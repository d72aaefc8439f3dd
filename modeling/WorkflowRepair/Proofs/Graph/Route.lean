import Mathlib.Data.List.Chain
import WorkflowRepair.Proofs.Graph.Reach

/-!
Walks through a graph, told as the lists of the nodes they come by. A node lies on a walk from one
node to another exactly when it is reached from the first and reaches the second, so the two
closures of a coverage together find the nodes on walks.
-/

namespace WorkflowRepair.Graph

open Relation

variable {ε : Type} [Arc ε] {edges : List ε} {a b x : String}

/-- A walk along arcs from one node to another, as the list of the nodes it comes by. -/
structure Route (edges : List ε) (a b : String) (ids : List String) : Prop where
  steps : ids.IsChain (Step edges)
  first : ids.head? = some a
  last : ids.getLast? = some b

theorem route_congr {edges' : List ε} {ids : List String} (same : Step edges' = Step edges) :
    Route edges' a b ids ↔ Route edges a b ids := by
  constructor
  · intro h
    exact ⟨same ▸ h.steps, h.first, h.last⟩
  · intro h
    exact ⟨same.symm ▸ h.steps, h.first, h.last⟩

/-- Whatever a walk comes by is reached from its first node. -/
theorem Route.reached {ids : List String} (h : Route edges a b ids) (mem : x ∈ ids) :
    ReflTransGen (Step edges) a x := by
  have start (given : ids ≠ []) : ids.head given = a :=
    Option.some.inj ((List.head?_eq_some_head given).symm.trans h.first)
  exact h.steps.induction (ReflTransGen (Step edges) a) ids (fun _ _ step way => way.tail step)
    (fun given => start given ▸ .refl) x mem

/-- Whatever a walk comes by reaches its last node. -/
theorem Route.reaches {ids : List String} (h : Route edges a b ids) (mem : x ∈ ids) :
    ReflTransGen (Step edges) x b := by
  have finish (given : ids ≠ []) : ids.getLast given = b :=
    Option.some.inj ((List.getLast?_eq_some_getLast given).symm.trans h.last)
  exact h.steps.backwards_induction (ReflTransGen (Step edges) · b) ids
    (fun _ _ step way => .head step way) (fun given => finish given ▸ .refl) x mem

theorem exists_route_of_reach (way : ReflTransGen (Step edges) a b) :
    ∃ rest, Route edges a b (a :: rest) := by
  obtain ⟨rest, steps, last⟩ := List.exists_isChain_cons_of_relationReflTransGen way
  exact ⟨rest, steps, rfl, (List.getLast?_eq_some_getLast _).trans (congrArg some last)⟩

/-- A walk to a node goes on with a walk from it. -/
theorem Route.append {ids rest : List String} (h : Route edges a x ids)
    (h' : Route edges x b (x :: rest)) : Route edges a b (ids ++ rest) := by
  have given : ids ≠ [] := by
    rintro rfl
    cases h.first
  refine ⟨h.steps.append h'.steps.tail fun y last z next => ?_, ?_, ?_⟩
  · rw [Option.some.inj (last.symm.trans h.last)]
    exact h'.steps.rel_head? next
  · rw [List.head?_append, h.first]
    rfl
  · have last := h'.last
    cases rest with
    | nil => rwa [List.append_nil, h.last]
    | cons y rest => rwa [List.getLast?_append_of_ne_nil _ (List.cons_ne_nil y rest)]

/-- A node lies on a walk exactly when it is reached from the first node and reaches the last. -/
theorem exists_route_iff : (∃ ids, Route edges a b ids ∧ x ∈ ids) ↔
    ReflTransGen (Step edges) a x ∧ ReflTransGen (Step edges) x b := by
  constructor
  · rintro ⟨ids, walk, mem⟩
    exact ⟨walk.reached mem, walk.reaches mem⟩
  · rintro ⟨before, after⟩
    obtain ⟨front, walk⟩ := exists_route_of_reach before
    obtain ⟨rest, walk'⟩ := exists_route_of_reach after
    refine ⟨_, walk.append walk', List.mem_append_left _ ?_⟩
    exact List.mem_of_getLast? walk.last

end WorkflowRepair.Graph
