import WorkflowRepair.Proofs.Graph.Cycle

/-!
A graph with one more arc. A way through it is an old one, or it comes to the start of the arc and
goes on from its end by old ways; so the arc closes a cycle exactly when an old way leads back along
it.
-/

namespace WorkflowRepair.Graph

open Relation

variable {ε : Type} [Arc ε] {edges : List ε} {e : ε} {a b : String}

theorem step_append_iff :
    Step (edges ++ [e]) a b ↔ Step edges a b ∨ Arc.source e = a ∧ Arc.target e = b := by
  simp only [Step, List.mem_append, List.mem_singleton, or_and_right, exists_or, exists_eq_left]

theorem step_append_of_step (step : Step edges a b) : Step (edges ++ [e]) a b :=
  step_append_iff.2 (.inl step)

theorem step_append_self : Step (edges ++ [e]) (Arc.source e) (Arc.target e) :=
  step_append_iff.2 (.inr ⟨rfl, rfl⟩)

/-- Of several times along a new arc, the way to the first and the way on from the last are
enough. -/
theorem reach_append_iff : ReflTransGen (Step (edges ++ [e])) a b ↔
    ReflTransGen (Step edges) a b ∨
      ReflTransGen (Step edges) a (Arc.source e) ∧ ReflTransGen (Step edges) (Arc.target e) b := by
  constructor
  · intro way
    induction way with
    | refl => exact .inl .refl
    | tail _ step ih =>
      rcases step_append_iff.1 step with old | ⟨rfl, rfl⟩
      · exact ih.imp (fun way => way.tail old) (And.imp_right fun way => way.tail old)
      · exact .inr ⟨ih.elim id And.left, .refl⟩
  · have old {x y : String} (way : ReflTransGen (Step edges) x y) :
        ReflTransGen (Step (edges ++ [e])) x y :=
      ReflTransGen.mono (fun _ _ => step_append_of_step) _ _ way
    rintro (way | ⟨there, on⟩)
    · exact old way
    · exact (old there).trans (.head step_append_self (old on))

/-- An arc can be added to a graph without cycles exactly when no way leads back along it. -/
theorem acyclic_append_iff : Acyclic (edges ++ [e]) ↔
    Acyclic edges ∧ ¬ ReflTransGen (Step edges) (Arc.target e) (Arc.source e) := by
  constructor
  · refine fun acyclic => ⟨fun x loop => acyclic x ?_, fun back => acyclic (Arc.source e) ?_⟩
    · exact TransGen.mono (fun _ _ => step_append_of_step) _ _ loop
    · exact .head' step_append_self (reach_append_iff.2 (.inl back))
  · rintro ⟨acyclic, none⟩ x loop
    obtain ⟨y, step, back⟩ := TransGen.head'_iff.1 loop
    rcases step_append_iff.1 step, reach_append_iff.1 back with
      ⟨old | ⟨rfl, rfl⟩, way | ⟨there, on⟩⟩
    · exact acyclic x (.head' old way)
    · exact none (on.trans (there.head old))
    · exact none way
    · exact none there

end WorkflowRepair.Graph
