import WorkflowRepair.Proofs.Graph.Forest

/-!
The search for a closing arc as a loop over a stack. On the stack are the nodes of the path, each
with the arcs out of it that were not followed yet. The loop comes to an end, its answer is the arc
that is found, and there is none exactly in graphs without cycles.
-/

namespace WorkflowRepair.Graph

open Relation

variable {ε : Type} [Arc ε]

/-- How far the loop has come: its stack, last node first, the finished nodes and the roots that are
still to be searched from. -/
structure Walk (ε : Type) where
  stack : List (String × List ε)
  done : List String
  roots : List String

/-- What one round of the loop comes to. -/
inductive Move (ε : Type) where
  | answer (found : Option ε)
  | on (next : Walk ε)

namespace Walk

def start (order : List String) : Walk ε := ⟨[], [], order⟩

/-- The nodes on the stack. -/
def path (w : Walk ε) : List String := w.stack.map Prod.fst

/-- One round: an arc of the last node is followed; the node is finished when it has none left; with
nothing on the stack the next root is taken. -/
def move (edges : List ε) (w : Walk ε) : Move ε :=
  match w.stack, w.roots with
  | [], [] => .answer none
  | [], root :: rest =>
    if root ∈ w.done then .on ⟨[], w.done, rest⟩
    else .on ⟨[(root, Arc.leaving edges root)], w.done, rest⟩
  | (node, []) :: below, roots => .on ⟨below, node :: w.done, roots⟩
  | (node, e :: rest) :: below, roots =>
    if Arc.target e ∈ w.path then .answer (some e)
    else if Arc.target e ∈ w.done then .on ⟨(node, rest) :: below, w.done, roots⟩
    else .on ⟨(Arc.target e, Arc.leaving edges (Arc.target e)) :: (node, rest) :: below, w.done,
      roots⟩

/-- After some rounds the loop comes to an answer. -/
inductive Answers (edges : List ε) : Walk ε → Option ε → Prop
  | now {w : Walk ε} {found : Option ε} : w.move edges = .answer found → Answers edges w found
  | later {w next : Walk ε} {found : Option ε} : w.move edges = .on next →
      Answers edges next found → Answers edges w found

variable {edges : List ε} {w : Walk ε} {found found' : Option ε}

theorem Answers.unique (h : Answers edges w found) (h' : Answers edges w found') :
    found = found' := by
  induction h with
  | now answer =>
    cases h' with
    | now answer' => exact Move.answer.inj (answer.symm.trans answer')
    | later on' _ => cases answer.symm.trans on'
  | later on _ ih =>
    cases h' with
    | now answer' => cases on.symm.trans answer'
    | later on' more => exact ih (Move.on.inj (on'.symm.trans on) ▸ more)

end Walk

open Walk (Answers)

variable {edges : List ε} {trail done roots : List String} {node : String} {out : List ε}
  {s : Survey ε} {found : Option ε}

/-- From a node whose arcs are explored, the loop goes on to the first closing arc, or to where the
node has no arc left. -/
theorem Explored.answers (h : Explored edges trail node done out s)
    {below : List (String × List ε)} (path : below.map Prod.fst = trail)
    (first : ∀ e, s.closing.head? = some e → found = some e)
    (rest : s.closing = [] → Answers edges ⟨(node, []) :: below, s.done, roots⟩ found) :
    Answers edges ⟨(node, out) :: below, done, roots⟩ found := by
  subst path
  generalize trailed : below.map Prod.fst = trail at h
  induction h generalizing below with
  | none => exact rest rfl
  | closing onPath _ _ =>
    subst trailed
    rw [first _ rfl]
    exact .now (if_pos onPath)
  | known off known _ ih =>
    subst trailed
    exact .later ((if_neg off).trans (if_pos known)) (ih first rest rfl)
  | tree off new _ _ ihBelow ih =>
    subst trailed
    refine .later ((if_neg off).trans (if_neg new)) (ihBelow (fun e low => ?_) (fun none => ?_) rfl)
    · exact first e (by rw [List.head?_append, low]; rfl)
    · refine .later rfl (ih (fun e after => ?_) (fun none' => ?_) rfl)
      · exact first e (by rw [none]; exact after)
      · exact rest (List.append_eq_nil_iff.2 ⟨none, none'⟩)

theorem Surveyed.answers (h : Surveyed edges done roots s) :
    Answers edges ⟨[], done, roots⟩ s.closing.head? := by
  induction h with
  | none => exact .now rfl
  | known known _ ih => exact .later (if_pos known) ih
  | @root done root rest below s new under _ ih =>
    refine .later (if_neg new) (under.answers rfl (fun e low => ?_) fun none => ?_)
    · show (below.closing ++ s.closing).head? = some e
      rw [List.head?_append, low]
      rfl
    · show Answers edges _ (below.closing ++ s.closing).head?
      rw [none]
      exact .later rfl ih

/-- The loop ends, and its only answer is what `backEdge?` finds. When the order holds the ends of
all arcs, none is found exactly in graphs without cycles. An arc that is found is one of the arcs,
and a way leads from its end back to its start. -/
theorem backEdge?_decides {order : List String}
    (known : ∀ e ∈ edges, Arc.source e ∈ order ∧ Arc.target e ∈ order) :
    (∀ found, Answers edges (.start order) found ↔ found = backEdge? order edges) ∧
      (backEdge? order edges = none ↔ Acyclic edges) ∧
      ∀ e, backEdge? order edges = some e →
        e ∈ edges ∧ ReflTransGen (Step edges) (Arc.target e) (Arc.source e) := by
  obtain ⟨s, surveyed⟩ := exists_surveyed edges [] order
  have ends : Answers edges (.start order) (backEdge? order edges) :=
    surveyed.backEdge?_eq ▸ surveyed.answers
  refine ⟨fun found => ⟨fun h => h.unique ends, fun same => same ▸ ends⟩,
    backEdge?_eq_none_iff fun e mem => (known e mem).1, fun e h => ?_⟩
  refine ⟨(loop_of_backEdge? h).1, surveyed.way_back surveyed.tree_subset e ?_⟩
  rw [surveyed.backEdge?_eq] at h
  exact List.mem_of_mem_head? h

/-- Two ways from `a` to `c`, and an arc back. -/
def twoWays : List (String × String) := [("a", "b"), ("a", "c"), ("b", "c"), ("c", "a")]

/-- The loop finds the arc back, for a way leads from `a` to `c`. -/
theorem backEdge?_decides_twoWays : Answers twoWays (.start ["c", "b", "a"]) (some ("b", "c")) ∧
    ¬ Acyclic twoWays ∧ ReflTransGen (Step twoWays) "c" "b" := by
  obtain ⟨ends, none, loop⟩ :=
    @backEdge?_decides (String × String) _ twoWays ["c", "b", "a"] (by decide)
  have found : backEdge? ["c", "b", "a"] twoWays = some ("b", "c") := by decide
  refine ⟨(ends _).2 found.symm, fun acyclic => ?_, (loop _ found).2⟩
  rw [none.2 acyclic] at found
  cases found

end WorkflowRepair.Graph
