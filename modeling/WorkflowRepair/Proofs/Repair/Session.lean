import Mathlib.Logic.Relation
import WorkflowRepair.Proofs.Repair.Guarantee
import WorkflowRepair.Proofs.Repair.Keyed
import WorkflowRepair.Proofs.Repair.Writable

/-!
Sessions. A workflow is read, and whoever holds it edits and repairs it in any order. At any time
its document gives it back, and the data of a node gives no key twice. A node that is taken out may
leave edges that touch it, and none of them outlasts a mending.
-/

namespace WorkflowRepair.Workflow

open Relation

variable {w w' : Workflow} {n : Node} {e : Edge}

/-! ### Edits -/

theorem writable_addNode (h : w.Writable) (new : n.Writable) : (w.addNode n).Writable :=
  ⟨List.forall_mem_append.2 ⟨h.nodes, List.forall_mem_singleton.2 new⟩, h.edges⟩

theorem writable_addEdge (h : w.Writable) (new : e.Writable) : (w.addEdge e).Writable :=
  ⟨h.nodes, List.forall_mem_append.2 ⟨h.edges, List.forall_mem_singleton.2 new⟩⟩

theorem writable_removeNode (h : w.Writable) (id : String) : (w.removeNode id).Writable :=
  ⟨fun n mem => h.nodes n (List.mem_filter.1 mem).1, h.edges⟩

theorem writable_removeEdge (h : w.Writable) (place : Nat) : (w.removeEdge place).Writable :=
  ⟨h.nodes, fun e mem => h.edges e (List.mem_of_mem_eraseIdx mem)⟩

theorem writable_setData (h : w.Writable) (id key : String) (value : Json) :
    (w.setData id key value).Writable := by
  refine Repair.writable_mapNodes h fun n => ?_
  split <;> rfl

theorem keyed_addNode (h : w.Keyed) (new : n.Keyed) : (w.addNode n).Keyed :=
  List.forall_mem_append.2 ⟨h, List.forall_mem_singleton.2 new⟩

theorem keyed_setData (h : w.Keyed) (id key : String) {value : Json} (new : value.Keyed) :
    (w.setData id key value).Keyed := by
  refine List.forall_mem_map.2 fun n mem => ?_
  split
  · exact (h n mem).set new
  · exact h n mem

/-- Mending leaves no edge that touches a node that was taken out. -/
theorem ends_mended_removeNode {id : String} (h : e ∈ (Repair.mended (w.removeNode id)).edges) :
    e.source ≠ id ∧ e.target ≠ id := by
  have gone : id ∉ (w.removeNode id).nodeIds := by
    simp [nodeIds, removeNode]
  obtain ⟨source, target⟩ := Repair.ends_mended h
  exact ⟨fun same => gone (same ▸ source), fun same => gone (same ▸ target)⟩

/-! ### Steps of a session -/

/-- A step of a session: an edit, where what it brings in was read from a text, or a repair. -/
inductive Step (w : Workflow) : Workflow → Prop where
  | addNode (raw : Json) (once : raw.Keyed) : Step w (w.addNode (Node.ofJson raw))
  | addEdge (raw : Json) : Step w (w.addEdge (Edge.ofJson raw))
  | removeNode (id : String) : Step w (w.removeNode id)
  | removeEdge (place : Nat) : Step w (w.removeEdge place)
  | setData (id key : String) (value : Json) (once : value.Keyed) : Step w (w.setData id key value)
  | mend {v : Validator} {onlyInvalid : Bool} {o : Repair.StructureOutcome}
      (run : Repair.fixStructure v onlyInvalid w = .ok o) : Step w o.workflow
  | heal (policy : FuzzyPolicy) : Step w (Repair.applyReferences policy w).workflow
  | complete : Step w (Repair.complete w).workflow
  | settle : Step w { w with edges := (Repair.settleExits w).1 }
  | fix {fixer : Fixer} {options : FixOptions} {o : FixOutcome}
      (run : fixer.fix options w = .ok o) : Step w o.workflow

theorem Step.writable (step : Step w w') (h : w.Writable) : w'.Writable := by
  cases step with
  | addNode raw => exact writable_addNode h (Node.writable_ofJson raw)
  | addEdge raw => exact writable_addEdge h (Edge.writable_ofJson raw)
  | removeNode id => exact writable_removeNode h id
  | removeEdge place => exact writable_removeEdge h place
  | setData id key value => exact writable_setData h id key value
  | mend run => exact Repair.writable_fixStructure run h
  | heal policy => exact Repair.writable_replaceReferences _ h
  | complete => exact Repair.writable_complete h
  | settle => exact ⟨h.nodes, Repair.writable_settleBranches _ _ _ h.edges⟩
  | fix run => exact Fixer.writable_of_fix run h

theorem Step.keyed (step : Step w w') (h : w.Keyed) : w'.Keyed := by
  cases step with
  | addNode raw once => exact keyed_addNode h (Node.keyed_ofJson once)
  | removeNode id => exact fun n mem => h n (List.mem_filter.1 mem).1
  | setData id key value once => exact keyed_setData h id key once
  | mend run =>
    rw [Workflow.Keyed, Repair.nodes_of_fixStructure run]
    exact h
  | heal policy => exact List.forall_mem_map.2 fun n mem => (h n mem).mapTexts _
  | complete => exact Repair.keyed_complete h
  | fix run => exact Fixer.keyed_of_fix run h
  | addEdge _ | removeEdge _ | settle => exact h

/-! ### Sessions -/

/-- At any time of a session the document of the workflow gives it back. -/
theorem survives_session {nodes edges : Json} (read : ofRaw nodes edges = .ok w)
    (session : ReflTransGen Step w w') : w'.Survives := by
  have writable : w'.Writable := by
    induction session with
    | refl => exact writable_of_ofRaw read
    | tail _ step ih => exact step.writable ih
  exact ofRaw_toMembers writable

/-- At no time of a session does the data of a node give a key twice. -/
theorem keyed_session {nodes edges : Json} (once : nodes.Keyed) (read : ofRaw nodes edges = .ok w)
    (session : ReflTransGen Step w w') : w'.Keyed := by
  induction session with
  | refl => exact keyed_ofRaw once read
  | tail _ step ih => exact step.keyed ih

end WorkflowRepair.Workflow
