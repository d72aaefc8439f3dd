import Mathlib.Data.List.Forall2
import WorkflowRepair.Proofs.Repair.Mending
import WorkflowRepair.Proofs.Repair.Rounds
import WorkflowRepair.Proofs.Workflow.RoundTrip

/-!
Repairs keep workflows that can be written. No pass touches what a node or an edge keeps aside, and
an edge gets no empty id. So what is read from arrays survives its own document, before and after
any repair.
-/

namespace WorkflowRepair

namespace Repair

/-- No mending brings an empty id or touches what an edge keeps aside. -/
theorem writable_amend {edge : Edge} (flaw : EdgeFlaw) (h : edge.Writable) :
    (amend edge flaw).Writable := by
  refine ⟨?_, ?_⟩
  · fun_cases amend edge flaw
    case case4 fresh _ given =>
      intro unnamed
      injection unnamed with empty
      exact given empty
    all_goals exact h.named
  · rw [extra_amend]
    exact h.aside

theorem writable_mended {w : Workflow} (h : w.Writable) : (mended w).Writable := by
  refine ⟨h.nodes, fun e he => ?_⟩
  rw [edges_mended] at he
  obtain ⟨⟨start, index⟩, here, mends⟩ := List.mem_filterMap.1 he
  obtain ⟨-, rfl⟩ := mendEdge?_eq_some mends
  refine foldl_amend Edge.Writable (fun flaw _ e => writable_amend flaw) (.inl ?_)
  exact h.edges start (List.fst_mem_of_mem_zipIdx here)

/-- A change of the data of nodes leaves what they keep aside. -/
theorem writable_mapNodes {w : Workflow} {change : Node → Node} (h : w.Writable)
    (aside : ∀ n, (change n).extra = n.extra) :
    { w with nodes := w.nodes.map change : Workflow }.Writable := by
  refine ⟨fun n hn => ?_, h.edges⟩
  obtain ⟨before, hbefore, rfl⟩ := List.mem_map.1 hn
  rw [Node.Writable, aside]
  exact h.nodes before hbefore

theorem writable_replaceReferences {w : Workflow} (newName : Reference → Option String)
    (h : w.Writable) : (replaceReferences newName w).Writable :=
  writable_mapNodes h fun _ => rfl

theorem writable_fillUserInput {w : Workflow} (h : w.Writable) : (fillUserInput w).1.Writable := by
  unfold fillUserInput
  split
  · refine writable_mapNodes h fun n => ?_
    split <;> rfl
  · exact h

theorem writable_addEdges {w : Workflow} {link : String → Edge} (ids : List String)
    (h : w.Writable) (new : ∀ id, (link id).Writable) :
    { w with edges := w.edges ++ ids.map link : Workflow }.Writable := by
  refine ⟨h.nodes, fun e he => ?_⟩
  rcases List.mem_append.1 he with he | he
  · exact h.edges e he
  · obtain ⟨id, -, rfl⟩ := List.mem_map.1 he
    exact new id

theorem writable_connectInput {w : Workflow} (input : Option Node) (h : w.Writable) :
    (connectInput w input).Writable := by
  cases input with
  | none => exact h
  | some node => exact writable_addEdges _ h fun _ => ⟨nofun, nofun⟩

theorem writable_connectOutput {w : Workflow} (output : Option Node) (h : w.Writable) :
    (connectOutput w output).Writable := by
  cases output with
  | none => exact h
  | some node => exact writable_addEdges _ h fun _ => ⟨nofun, nofun⟩

theorem writable_inputFor? {w : Workflow} {n : Node} (h : inputFor? w = some n) : n.Writable := by
  unfold inputFor? at h
  split at h
  · cases h
  · cases h
    exact nofun

theorem writable_outputFor? {w : Workflow} {added : Option Node} {n : Node}
    (h : outputFor? w added = some n) : n.Writable := by
  unfold outputFor? at h
  split at h
  · cases h
  · cases h
    exact nofun

theorem writable_complete {w : Workflow} (h : w.Writable) : (complete w).workflow.Writable := by
  refine writable_connectOutput _ (writable_connectInput _ ⟨fun n hn => ?_, h.edges⟩)
  rcases List.mem_append.1 hn with hn | hn
  · rcases List.mem_append.1 hn with hn | hn
    · exact writable_inputFor? (Option.mem_toList.1 hn)
    · exact h.nodes n hn
  · exact writable_outputFor? (Option.mem_toList.1 hn)

theorem writable_setExit {edges : List Edge} (branch : String) (reason : ExitReason) (place : Nat)
    (exit : Exit) (h : ∀ e ∈ edges, e.Writable) :
    ∀ e ∈ (setExit branch reason place exit edges).1, e.Writable := by
  unfold setExit
  split
  · exact h
  · next edge found =>
    split
    · exact h
    · intro e he
      rcases List.mem_or_eq_of_mem_set he with old | rfl
      · exact h e old
      · have here := h edge (List.mem_of_getElem? found)
        exact ⟨here.named, here.aside⟩

theorem writable_settleBranch {edges : List Edge} (nodes : List Node) (ids : List String)
    (branch : String) (h : ∀ e ∈ edges, e.Writable) :
    ∀ e ∈ (settleBranch nodes ids branch edges).1, e.Writable := by
  unfold settleBranch
  split
  · split
    · split
      · exact h
      · exact writable_setExit _ _ _ _ (writable_setExit _ _ _ _ h)
    · exact h
  · exact h

theorem writable_settleBranches {edges : List Edge} (nodes : List Node) (ids : List String)
    (branches : List String) (h : ∀ e ∈ edges, e.Writable) :
    ∀ e ∈ (settleBranches nodes ids branches edges).1, e.Writable := by
  induction branches generalizing edges with
  | nil => exact h
  | cons branch rest ih => exact ih (writable_settleBranch nodes ids branch h)

theorem writable_prepare {options : FixOptions} {w : Workflow} (h : w.Writable) :
    (prepare options w).Writable :=
  prepare_keeps options h (fun _ => writable_complete) fun _ => writable_fillUserInput

theorem writable_finish {policy : FuzzyPolicy} {options : FixOptions} {w : Workflow}
    (h : w.Writable) : (finish policy options w).Writable := by
  have healed : (healReferences policy w).Writable := writable_replaceReferences _ h
  have renamed : (if options.renameFields then (renameFields (healReferences policy w)).1
      else healReferences policy w).Writable := by
    split
    · exact writable_replaceReferences _ healed
    · exact healed
  exact ⟨renamed.nodes, writable_settleBranches _ _ _ renamed.edges⟩

theorem writable_fixStructure {v : Validator} {onlyInvalid : Bool} {w : Workflow}
    {o : StructureOutcome} (h : fixStructure v onlyInvalid w = .ok o) (start : w.Writable) :
    o.workflow.Writable := by
  rcases workflow_of_fixStructure h with same | same
  · rw [same]
    exact start
  · rw [same]
    exact writable_mended start

theorem writable_round {fixer : Fixer} {options : FixOptions} {w : Workflow} {r : Round}
    (h : w.Writable) (run : round fixer options w = .ok r) : r.workflow.Writable := by
  obtain ⟨s, repaired, eq⟩ := round_eq_ok run
  have prepared : (prepare options w).Writable := writable_prepare h
  rw [eq]
  exact writable_finish (writable_fixStructure repaired prepared)

end Repair

/-- A repair keeps a workflow that can be written. -/
theorem Fixer.writable_of_fix {fixer : Fixer} {options : FixOptions} {w : Workflow} {o : FixOutcome}
    (h : fixer.fix options w = .ok o) (start : w.Writable) : o.workflow.Writable :=
  keeps_of_fix h start fun _ _ => Repair.writable_round

namespace Workflow

/-- The workflow comes back when its document is read. -/
def Survives (w : Workflow) : Prop :=
  ofRaw (Members.getD w.toMembers "nodes") (Members.getD w.toMembers "edges") = .ok w

/-- What is read from arrays survives its document, and so does all that the repairs make of it; and
what has no meaning in the objects of the arrays stands in the document as it was. -/
theorem survives_reading (nodes edges : List Json) :
    ∃ w, ofRaw (.arr nodes) (.arr edges) = .ok w ∧ w.Survives ∧
      (∀ v onlyInvalid o, Repair.fixStructure v onlyInvalid w = .ok o → o.workflow.Survives) ∧
      (∀ fixer options o, Fixer.fix fixer options w = .ok o → o.workflow.Survives) ∧
      List.Forall₂ (Json.KeepsForeign Node.knownKeys) nodes (w.nodes.map Node.toJson) ∧
      List.Forall₂ (Json.KeepsForeign Edge.knownKeys) edges (w.edges.map Edge.toJson) := by
  have given : ofRaw (.arr nodes) (.arr edges) =
      .ok ⟨nodes.map Node.ofJson, edges.map Edge.ofJson⟩ := rfl
  have read := writable_of_ofRaw given
  refine ⟨_, given, ofRaw_toMembers read, ?_, ?_, ?_, ?_⟩
  · exact fun v onlyInvalid o run => ofRaw_toMembers (Repair.writable_fixStructure run read)
  · exact fun fixer options o run => ofRaw_toMembers (Fixer.writable_of_fix run read)
  · rw [List.map_map, List.forall₂_map_right_iff, List.forall₂_same]
    exact fun raw _ => Node.keepsForeign raw
  · rw [List.map_map, List.forall₂_map_right_iff, List.forall₂_same]
    exact fun raw _ => Edge.keepsForeign raw

/-- A node with a place that cannot be read and a note, and an entry that is no object. -/
def raggedNodes : List Json :=
  [.obj [("note", .str "n"), ("id", .str "a"), ("type", .str "input"),
    ("position", .obj [("x", .bool true), ("y", Json.ofInt 0)])], .null]

/-- An edge without a source, with an empty id and a colour of its own. -/
def raggedEdges : List Json :=
  [.obj [("id", .str ""), ("target", .str "a"), ("sourceHandle", .str "true"),
    ("colour", .arr [])]]

/-- The repair drops the edge; the workflow comes back before and after that. -/
theorem survives_reading_ragged :
    ∃ w o, ofRaw (.arr raggedNodes) (.arr raggedEdges) = .ok w ∧ w.Survives ∧
      Fixer.fix ⟨{}, {}⟩ {} w = .ok o ∧ o.workflow ≠ w ∧ o.workflow.Survives := by
  obtain ⟨w, given, survives, -, whole, -⟩ := survives_reading raggedNodes raggedEdges
  have repair : (Fixer.fix ⟨{}, {}⟩ {} w).toOption.map (fun o => decide (o.workflow ≠ w)) =
      some true := by
    rw [← Except.ok.inj given]
    decide +kernel
  obtain ⟨o, run, changed⟩ := ok_of_toOption repair
  exact ⟨w, o, given, survives, run, of_decide_eq_true changed, whole ⟨{}, {}⟩ {} o run⟩

end Workflow

end WorkflowRepair
