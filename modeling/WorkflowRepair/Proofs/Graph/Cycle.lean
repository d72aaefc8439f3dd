import Mathlib.Logic.Relation
import WorkflowRepair.Graph.BackEdge

/-!
What the search for a closing arc finds. The nodes that a search is done with form a list in which
every arc leads further down, so none of them is on a cycle. The path to the node at hand is simple,
so its trail is never longer than there are arcs, and a way leads from each of its nodes to the node
at hand, so that an arc back to the path closes a cycle.
-/

namespace WorkflowRepair.Graph

open Relation

variable {ε : Type} [Arc ε]

/-- An arc leads from one node to another. -/
def Step (edges : List ε) (a b : String) : Prop :=
  ∃ e ∈ edges, Arc.source e = a ∧ Arc.target e = b

/-- No way leads from a node back to it. -/
def Acyclic (edges : List ε) : Prop := ∀ a, ¬ TransGen (Step edges) a a

variable {edges : List ε}

/-- Finished nodes, last first: all arcs of a node lead to nodes finished before it. -/
inductive Settled (edges : List ε) : List String → Prop
  | none : Settled edges []
  | more {a : String} {done : List String} : (∀ b, Step edges a b → b ∈ done) →
      Settled edges done → Settled edges (a :: done)

theorem Settled.closed {done : List String} (h : Settled edges done) {a b : String}
    (mem : a ∈ done) (step : Step edges a b) : b ∈ done := by
  induction h with
  | none => cases mem
  | more out _ ih =>
    rcases List.mem_cons.1 mem with rfl | earlier
    · exact List.mem_cons_of_mem _ (out b step)
    · exact List.mem_cons_of_mem _ (ih earlier)

theorem Settled.mem_of_reach {done : List String} (h : Settled edges done) {a b : String}
    (mem : a ∈ done) (way : ReflTransGen (Step edges) a b) : b ∈ done := by
  induction way with
  | refl => exact mem
  | tail _ step ih => exact h.closed ih step

/-- No finished node is on a cycle. -/
theorem Settled.not_loop {done : List String} (h : Settled edges done) {a : String}
    (mem : a ∈ done) : ¬ TransGen (Step edges) a a := by
  induction h with
  | none => cases mem
  | more out earlier ih =>
    rcases List.mem_cons.1 mem with rfl | before
    · intro loop
      obtain ⟨b, step, back⟩ := TransGen.head'_iff.1 loop
      exact ih (earlier.mem_of_reach (out b step) back) loop
    · exact ih before

/-- A simple path along arcs: its trail, last node first, and the node at its end. -/
inductive Path (edges : List ε) : List String → String → Prop
  | start (a : String) : Path edges [] a
  | step {trail : List String} {a b : String} : Path edges trail a → Step edges a b →
      b ∉ a :: trail → Path edges (a :: trail) b

theorem Path.nodup {trail : List String} {node : String} (h : Path edges trail node) :
    (node :: trail).Nodup := by
  induction h with
  | start a => simp
  | step _ _ new ih => exact List.nodup_cons.2 ⟨new, ih⟩

/-- A way leads from each node of a path to its end. -/
theorem Path.reach {trail : List String} {node : String} (h : Path edges trail node) :
    ∀ a ∈ node :: trail, ReflTransGen (Step edges) a node := by
  induction h with
  | start b =>
    intro a mem
    rw [List.mem_singleton.1 mem]
  | step _ along _ ih =>
    intro a mem
    rcases List.mem_cons.1 mem with rfl | mem
    · exact .refl
    · exact (ih a mem).tail along

/-- Every node of the trail is left by an arc. -/
theorem Path.trail_subset {trail : List String} {node : String} (h : Path edges trail node) :
    trail ⊆ edges.map Arc.source := by
  induction h with
  | start b => exact List.nil_subset _
  | step _ along _ ih =>
    obtain ⟨e, he, rfl, -⟩ := along
    exact List.cons_subset.2 ⟨List.mem_map_of_mem he, ih⟩

theorem Path.length_le {trail : List String} {node : String} (h : Path edges trail node) :
    trail.length ≤ edges.length := by
  have simple : trail.Nodup := (List.nodup_cons.1 h.nodup).2
  simpa using simple.length_le_of_subset h.trail_subset

/-- What a search may come to that has to meet some nodes: an arc with a way back from its end to
its start, or finished nodes with those among them. -/
inductive Search.Sound (edges : List ε) (done met : List String) : Search ε → Prop
  | closed {e : ε} : e ∈ edges → ReflTransGen (Step edges) (Arc.target e) (Arc.source e) →
      Sound edges done met (.closed e)
  | finished {done' : List String} : Settled edges done' → done ⊆ done' → met ⊆ done' →
      Sound edges done met (.finished done')

/-- A node that was finished before a search counts as met by it. -/
theorem Search.Sound.cons {done earlier met : List String} {found : Search ε} {b : String}
    (h : found.Sound edges done met) (kept : earlier ⊆ done) (mem : b ∈ done) :
    found.Sound edges earlier (b :: met) := by
  cases h with
  | closed here back => exact .closed here back
  | finished settled grown all =>
    exact .finished settled (List.Subset.trans kept grown) (List.cons_subset.2 ⟨grown mem, all⟩)

/-- The nodes to which the arcs of a node lead. -/
def next (edges : List ε) (node : String) : List String := (Arc.leaving edges node).map Arc.target

theorem mem_next {node b : String} : b ∈ next edges node ↔ Step edges node b := by
  simp [next, Arc.leaving, Step, and_assoc]

/-- A node whose search is over is settled for whatever is searched next. -/
theorem Search.Sound.andThen {done met : List String} {found : Search ε} {node : String}
    (h : found.Sound edges done (next edges node)) (rest : List String → Search ε)
    (later : ∀ done', Settled edges (node :: done') →
      (rest (node :: done')).Sound edges (node :: done') met) :
    (match found with
      | .closed e => Search.closed e
      | .finished done' => rest (node :: done')).Sound edges done (node :: met) := by
  cases h with
  | closed here back => exact .closed here back
  | @finished done' settled grown all =>
    have ended : Settled edges (node :: done') :=
      .more (fun b step => all (mem_next.2 step)) settled
    have kept : done ⊆ node :: done' := List.Subset.trans grown (List.subset_cons_self _ _)
    exact (later done' ended).cons kept List.mem_cons_self

/-- The arcs out of the end of a path are followed well when new nodes are visited well. -/
theorem sound_follow {visit : String → List String → Search ε} {path : List String}
    {node : String} (closes : ∀ a ∈ path, ReflTransGen (Step edges) a node) {out : List ε}
    (leave : ∀ e ∈ out, e ∈ edges ∧ Arc.source e = node)
    (visits : ∀ b, Step edges node b → b ∉ path → ∀ done, Settled edges done →
      (visit b done).Sound edges done (next edges b))
    {done : List String} (settled : Settled edges done) :
    (follow visit path done out).Sound edges done (out.map Arc.target) := by
  induction out generalizing done with
  | nil => exact .finished settled (List.Subset.refl _) (List.nil_subset _)
  | cons e rest ih =>
    obtain ⟨here, source⟩ := leave e List.mem_cons_self
    have later : ∀ e' ∈ rest, e' ∈ edges ∧ Arc.source e' = node :=
      fun e' he' => leave e' (List.mem_cons_of_mem e he')
    unfold follow
    by_cases onPath : Arc.target e ∈ path
    · rw [if_pos (List.contains_iff_mem.2 onPath)]
      refine .closed here ?_
      rw [source]
      exact closes _ onPath
    · rw [if_neg (mt List.contains_iff_mem.1 onPath)]
      by_cases known : Arc.target e ∈ done
      · rw [if_pos (List.contains_iff_mem.2 known)]
        exact (ih later settled).cons (List.Subset.refl _) known
      · rw [if_neg (mt List.contains_iff_mem.1 known)]
        have visited := visits (Arc.target e) ⟨e, here, source, rfl⟩ onPath done settled
        exact visited.andThen (follow visit path · rest) fun _ ended => ih later ended

/-- A search that may go as deep as the path leaves room for meets all that its node leads to. -/
theorem sound_search {depth : Nat} {trail done : List String} {node : String}
    (path : Path edges trail node) (room : edges.length < depth + trail.length)
    (settled : Settled edges done) :
    (search edges depth trail node done).Sound edges done (next edges node) := by
  induction depth generalizing trail node done with
  | zero =>
    have short := path.length_le
    omega
  | succ depth ih =>
    unfold search
    refine sound_follow path.reach ?_ ?_ settled
    · intro e he
      obtain ⟨here, source⟩ := List.mem_filter.1 he
      exact ⟨here, of_decide_eq_true source⟩
    · intro b step new done' settled'
      refine ih (path.step step new) ?_ settled'
      rw [List.length_cons]
      omega

theorem sound_searchFrom {roots done : List String} (settled : Settled edges done) :
    (searchFrom edges done roots).Sound edges done roots := by
  induction roots generalizing done with
  | nil => exact .finished settled (List.Subset.refl _) (List.nil_subset _)
  | cons root rest ih =>
    unfold searchFrom
    by_cases known : root ∈ done
    · rw [if_pos (List.contains_iff_mem.2 known)]
      exact (ih settled).cons (List.Subset.refl _) known
    · rw [if_neg (mt List.contains_iff_mem.1 known)]
      have searched : (search edges (edges.length + 1) [] root done).Sound edges done
          (next edges root) := sound_search (.start root) (Nat.lt_succ_self _) settled
      exact searched.andThen (searchFrom edges · rest) fun _ ended => ih ended

/-- An arc that is found closes a cycle. -/
theorem loop_of_backEdge? {order : List String} {e : ε} (h : backEdge? order edges = some e) :
    e ∈ edges ∧ TransGen (Step edges) (Arc.source e) (Arc.source e) := by
  have searched : (searchFrom edges [] order).Sound edges [] order := sound_searchFrom .none
  unfold backEdge? at h
  split at h
  · next found run =>
    cases h
    rw [run] at searched
    cases searched with
    | closed here back => exact ⟨here, TransGen.head' ⟨e, here, rfl, rfl⟩ back⟩
  · cases h

/-- No arc is found exactly in graphs without cycles, when the order holds all nodes that arcs
leave. -/
theorem backEdge?_eq_none_iff {order : List String} (known : ∀ e ∈ edges, Arc.source e ∈ order) :
    backEdge? order edges = none ↔ Acyclic edges := by
  constructor
  · intro h a loop
    have searched : (searchFrom edges [] order).Sound edges [] order := sound_searchFrom .none
    unfold backEdge? at h
    split at h
    · cases h
    · next done run =>
      rw [run] at searched
      cases searched with
      | finished settled _ met =>
        obtain ⟨b, ⟨e, he, source, -⟩, -⟩ := TransGen.head'_iff.1 loop
        exact settled.not_loop (met (source ▸ known e he)) loop
  · intro acyclic
    cases found : backEdge? order edges with
    | none => rfl
    | some e => exact absurd (loop_of_backEdge? found).2 (acyclic _)

end WorkflowRepair.Graph
