import WorkflowRepair.Proofs.Graph.Added
import WorkflowRepair.Proofs.Repair.Orphans

/-!
The links proposed for a node off every way. They go up the ranking of the nodes, so each joins two
different nodes. But the edges of a workflow need not go up the ranking, and what is proposed as the
other end of a link may be off every way itself: then the link may be there already, or it may close
a cycle.
-/

namespace WorkflowRepair

open Relation

namespace Workflow

/-- The workflow with an edge more for each of the links. -/
def withLinks (w : Workflow) (links : List (String × String)) : Workflow :=
  links.foldl (fun w link => w.addEdge { source := link.1, target := link.2 }) w

end Workflow

namespace Repair

/-! ### The ends of proposed links -/

variable {nodes : List Node} {coverage : Graph.Coverage} {node : Node} {w : Workflow} {id : String}
  {links : List (String × String)}

theorem mem_of_mem_ranked {n : Node} (h : n ∈ ranked nodes) : n ∈ nodes := by
  obtain ⟨r, -, mem⟩ := List.mem_flatMap.1 h
  exact (List.mem_filter.1 mem).1

/-- The node to lead from to a node that nothing leads to. -/
def predecessor? (nodes : List Node) (coverage : Graph.Coverage) (node : Node) : Option Node :=
  (((ranked nodes).filter fun n => rank n < rank node).getLast?).filter
    fun _ => !coverage.forward.contains node.id

/-- The node to lead to from a node that leads nowhere. -/
def successor? (nodes : List Node) (coverage : Graph.Coverage) (node : Node) : Option Node :=
  ((ranked nodes).find? fun n => rank node < rank n).filter
    fun _ => !coverage.backward.contains node.id

theorem of_predecessor? {n : Node} (h : predecessor? nodes coverage node = some n) :
    n ∈ nodes ∧ rank n < rank node ∧ node.id ∉ coverage.forward := by
  obtain ⟨last, unreached⟩ := Option.filter_eq_some_iff.1 h
  obtain ⟨mem, lower⟩ := List.mem_filter.1 (List.mem_of_getLast? last)
  exact ⟨mem_of_mem_ranked mem, of_decide_eq_true lower, by simpa using unreached⟩

theorem of_successor? {n : Node} (h : successor? nodes coverage node = some n) :
    n ∈ nodes ∧ rank node < rank n ∧ node.id ∉ coverage.backward := by
  obtain ⟨first, unreached⟩ := Option.filter_eq_some_iff.1 h
  have higher := List.find?_some first
  exact ⟨mem_of_mem_ranked (List.mem_of_find?_eq_some first), of_decide_eq_true higher,
    by simpa using unreached⟩

/-- At most one link to the node is proposed, and at most one from it. -/
theorem proposedLinks_eq (nodes : List Node) (coverage : Graph.Coverage) (node : Node) :
    proposedLinks nodes coverage node =
      (predecessor? nodes coverage node).toList.map (fun n => (n.id, node.id)) ++
        (successor? nodes coverage node).toList.map fun n => (node.id, n.id) := by
  simp only [proposedLinks, predecessor?, successor?]
  generalize ((ranked nodes).filter fun n => rank n < rank node).getLast? = before
  generalize ((ranked nodes).find? fun n => rank node < rank n) = after
  generalize coverage.forward.contains node.id = reached
  generalize coverage.backward.contains node.id = reaching
  congr 1
  · cases before with
    | none => rfl
    | some n => cases reached <;> rfl
  · cases after with
    | none => rfl
    | some n => cases reaching <;> rfl

theorem mem_proposedLinks {link : String × String} : link ∈ proposedLinks nodes coverage node ↔
    (∃ n, predecessor? nodes coverage node = some n ∧ (n.id, node.id) = link) ∨
      ∃ n, successor? nodes coverage node = some n ∧ (node.id, n.id) = link := by
  simp only [proposedLinks_eq, List.mem_append, List.mem_map, Option.mem_toList]

theorem ascends_proposed {link : String × String} (mem : node ∈ nodes)
    (h : link ∈ proposedLinks nodes coverage node) :
    ∃ a ∈ nodes, ∃ b ∈ nodes, (a.id, b.id) = link ∧ rank a < rank b := by
  rcases mem_proposedLinks.1 h with ⟨n, found, same⟩ | ⟨n, found, same⟩
  · obtain ⟨here, lower, -⟩ := of_predecessor? found
    exact ⟨n, here, node, mem, same, lower⟩
  · obtain ⟨here, higher, -⟩ := of_successor? found
    exact ⟨node, mem, n, here, same, higher⟩

theorem ends_proposed {link : String × String} (mem : node ∈ distinctNodes w.nodes)
    (h : link ∈ proposedLinks (distinctNodes w.nodes) coverage node) :
    link.1 ≠ link.2 ∧ link.1 ∈ w.nodeIds ∧ link.2 ∈ w.nodeIds := by
  obtain ⟨a, source, b, target, rfl, less⟩ := ascends_proposed mem h
  refine ⟨fun same => ?_, mem_nodeIds_of_distinct source, mem_nodeIds_of_distinct target⟩
  rw [eq_of_id_eq source target same] at less
  exact Nat.lt_irrefl _ less

/-! ### Nodes off every way in the mended graph -/

/-- The coverage of the nodes of a workflow by the edges that the mending leaves. -/
def coverageOf (w : Workflow) : Option Graph.Coverage :=
  Graph.coverage? (Validation.idsOfKind (distinctNodes w.nodes) .input)
    (Validation.idsOfKind (distinctNodes w.nodes) .output) (mended w).edges
    (distinctNodes w.nodes).length

theorem coverageOf_eq (w : Workflow) : coverageOf w =
    Graph.coverage? (Validation.idsOfKind (distinctNodes w.nodes) .input)
      (Validation.idsOfKind (distinctNodes w.nodes) .output) (keptLinks w)
      (distinctNodes w.nodes).length :=
  Graph.coverage?_congr (map_pair_mended w) _ _ _

theorem exists_of_orphan (h : .orphan id links ∈ defects w) :
    ∃ coverage node, coverageOf w = some coverage ∧ node ∈ distinctNodes w.nodes ∧
      node.id = id ∧ proposedLinks (distinctNodes w.nodes) coverage node = links := by
  have listed : Defect.orphan id links ∈ orphanDefects (distinctNodes w.nodes) (keptLinks w) := by
    rw [← filter_not_isSafe]
    exact List.mem_filter.2 ⟨h, rfl⟩
  rw [orphanDefects, ← coverageOf_eq] at listed
  split at listed
  · cases listed
  · next coverage found =>
    obtain ⟨node, off, same⟩ := List.mem_map.1 listed
    injection same with named proposed
    exact ⟨coverage, node, found, (List.mem_filter.1 off).1, named, proposed⟩

theorem mem_orphanIds (found : coverageOf w = some coverage) (mem : node ∈ distinctNodes w.nodes)
    (off : node.id ∉ coverage.forward ∨ node.id ∉ coverage.backward) : node.id ∈ orphanIds w := by
  rw [orphanIds_eq, Validation.uncovered, ← coverageOf_eq, found]
  refine List.mem_map_of_mem (List.mem_filter.2 ⟨mem, ?_⟩)
  simpa [Graph.Coverage.holds, ← Classical.not_and_iff_not_or_not] using off

/-- A proposed link that repeats the ends of an edge joins two nodes that are both off every way,
since the edge leads on from a node that is reached. -/
theorem orphans_of_repeated {link : String × String} (found : coverageOf w = some coverage)
    (mem : node ∈ distinctNodes w.nodes)
    (h : link ∈ proposedLinks (distinctNodes w.nodes) coverage node)
    (repeated : link ∈ (mended w).edges.map Edge.pair) :
    link.1 ∈ orphanIds w ∧ link.2 ∈ orphanIds w := by
  rcases mem_proposedLinks.1 h with ⟨n, before, rfl⟩ | ⟨n, after, rfl⟩
  · obtain ⟨here, -, unreached⟩ := of_predecessor? before
    obtain ⟨onward, -⟩ := Graph.coverage?_closed found (Graph.joined_ends_iff.1 repeated)
    exact ⟨mem_orphanIds found here (.inl fun reached => unreached (onward reached)),
      mem_orphanIds found mem (.inl unreached)⟩
  · obtain ⟨here, -, unreached⟩ := of_successor? after
    obtain ⟨-, back⟩ := Graph.coverage?_closed found (Graph.joined_ends_iff.1 repeated)
    exact ⟨mem_orphanIds found mem (.inr unreached),
      mem_orphanIds found here (.inr fun reached => unreached (back reached))⟩

/-! ### Cycles through proposed links -/

theorem acyclic_addEdge_iff {g : Workflow} {a b : String} :
    Graph.Acyclic (g.addEdge { source := a, target := b }).edges ↔
      Graph.Acyclic g.edges ∧ ¬ ReflTransGen (Graph.Step g.edges) b a :=
  Graph.acyclic_append_iff

theorem reach_addEdge_iff {g : Workflow} {a b x y : String} :
    ReflTransGen (Graph.Step (g.addEdge { source := a, target := b }).edges) x y ↔
      ReflTransGen (Graph.Step g.edges) x y ∨
        ReflTransGen (Graph.Step g.edges) x a ∧ ReflTransGen (Graph.Step g.edges) b y :=
  Graph.reach_append_iff

/-- Links to a node and from it close no cycle exactly when no way leads back along one of them, or
from where the one leads to where the other comes from, since the second is added to a graph that
has the first. -/
theorem acyclic_withLinks_iff {g : Workflow} (acyclic : Graph.Acyclic g.edges)
    (before after : Option Node)
    (proposed : before.toList.map (fun n => (n.id, id)) ++ after.toList.map (fun n => (id, n.id)) =
      links) (apart : ∀ link ∈ links, link.1 ≠ link.2) :
    Graph.Acyclic (g.withLinks links).edges ↔
      (∀ link ∈ links, ¬ ReflTransGen (Graph.Step g.edges) link.2 link.1) ∧
      ∀ p s, (p, id) ∈ links → (id, s) ∈ links → ¬ ReflTransGen (Graph.Step g.edges) s p := by
  subst proposed
  cases before with
  | none =>
    cases after with
    | none => exact iff_of_true acyclic ⟨nofun, nofun⟩
    | some s =>
      have above : id ≠ s.id := apart (id, s.id) (by simp)
      show Graph.Acyclic (g.addEdge { source := id, target := s.id }).edges ↔ _
      rw [acyclic_addEdge_iff]
      simp [acyclic, above]
  | some p =>
    have below : id ≠ p.id := (apart (p.id, id) (by simp)).symm
    cases after with
    | none =>
      show Graph.Acyclic (g.addEdge { source := p.id, target := id }).edges ↔ _
      rw [acyclic_addEdge_iff]
      simp [acyclic, below]
    | some s =>
      have above : id ≠ s.id := apart (id, s.id) (by simp)
      show Graph.Acyclic ((g.addEdge { source := p.id, target := id }).addEdge
        { source := id, target := s.id }).edges ↔ _
      rw [acyclic_addEdge_iff, acyclic_addEdge_iff, reach_addEdge_iff]
      simp [acyclic, above, below, ReflTransGen.refl, and_assoc]

theorem acyclic_proposed_iff (mem : node ∈ distinctNodes w.nodes) :
    Graph.Acyclic ((mended w).withLinks
        (proposedLinks (distinctNodes w.nodes) coverage node)).edges ↔
      (∀ link ∈ proposedLinks (distinctNodes w.nodes) coverage node,
        ¬ ReflTransGen (Graph.Step (mended w).edges) link.2 link.1) ∧
      ∀ p s, (p, node.id) ∈ proposedLinks (distinctNodes w.nodes) coverage node →
        (node.id, s) ∈ proposedLinks (distinctNodes w.nodes) coverage node →
          ¬ ReflTransGen (Graph.Step (mended w).edges) s p :=
  acyclic_withLinks_iff (steady_mended w).acyclic _ _ (proposedLinks_eq _ _ _).symm
    fun _ here => (ends_proposed mem here).1

/-- No edge that the mending leaves goes down the ranking. -/
def Ascending (w : Workflow) : Prop :=
  ∀ a ∈ distinctNodes w.nodes, ∀ b ∈ distinctNodes w.nodes,
    Graph.Step (mended w).edges a.id b.id → rank a ≤ rank b

theorem Ascending.reach (ascending : Ascending w) {a : Node} (mem : a ∈ distinctNodes w.nodes)
    {x : String} (way : ReflTransGen (Graph.Step (mended w).edges) a.id x) :
    ∃ b ∈ distinctNodes w.nodes, b.id = x ∧ rank a ≤ rank b := by
  induction way with
  | refl => exact ⟨a, mem, rfl, Nat.le_refl _⟩
  | tail _ step ih =>
    obtain ⟨b, here, rfl, le⟩ := ih
    obtain ⟨e, there, -, rfl⟩ := id step
    have ends := (steady_mended w).target e there
    obtain ⟨c, here', target⟩ := List.mem_map.1 (mem_of_endpoint? ends)
    refine ⟨c, here', target, le.trans (ascending b here c here' ?_)⟩
    rwa [target]

theorem Ascending.not_reach (ascending : Ascending w) {a b : Node} (mem : a ∈ distinctNodes w.nodes)
    (mem' : b ∈ distinctNodes w.nodes) (less : rank a < rank b) :
    ¬ ReflTransGen (Graph.Step (mended w).edges) b.id a.id := by
  intro way
  obtain ⟨c, here, same, le⟩ := ascending.reach mem' way
  rw [eq_of_id_eq here mem same] at le
  omega

/-- Where no edge goes down the ranking, the links proposed for a node close no cycle. -/
theorem acyclic_of_ascending (orphan : .orphan id links ∈ defects w) (ascending : Ascending w) :
    Graph.Acyclic ((mended w).withLinks links).edges := by
  obtain ⟨coverage, node, -, mem, rfl, rfl⟩ := exists_of_orphan orphan
  refine (acyclic_proposed_iff mem).2 ⟨fun link here => ?_, fun p s first second => ?_⟩
  · obtain ⟨a, source, b, target, rfl, less⟩ := ascends_proposed mem here
    exact ascending.not_reach source target less
  · obtain ⟨a, source, b, middle, into, less⟩ := ascends_proposed mem first
    obtain ⟨b', middle', c, target, out, less'⟩ := ascends_proposed mem second
    injection into with start joint
    injection out with joint' finish
    rw [← start, ← finish]
    refine ascending.not_reach source target (less.trans ?_)
    rwa [eq_of_id_eq middle middle' (joint.trans joint'.symm)]

/-! ### Reconnection -/

/-- The links join what was not joined: each joins two different nodes of the workflow and repeats
the ends of no edge, and with all of them there is no cycle. -/
structure Reconnects (w : Workflow) (links : List (String × String)) : Prop where
  ends : ∀ link ∈ links, link.1 ≠ link.2 ∧ link.1 ∈ w.nodeIds ∧ link.2 ∈ w.nodeIds
  new : ∀ link ∈ links, link ∉ w.edges.map Edge.pair
  acyclic : Graph.Acyclic (w.withLinks links).edges

/-- The links proposed for a node always join two different nodes. They join what was not joined
exactly when no two nodes off every way that a link joins have an edge already, and no way leads
back along a link, or from where the one leads to where the other comes from. -/
theorem reconnects_iff (orphan : .orphan id links ∈ defects w) :
    (∀ link ∈ links, link.1 ≠ link.2 ∧ link.1 ∈ w.nodeIds ∧ link.2 ∈ w.nodeIds) ∧
    (Reconnects (mend w (safeFlaws w)) links ↔
      (∀ link ∈ links, link.1 ∈ orphanIds w → link.2 ∈ orphanIds w →
        link ∉ (mend w (safeFlaws w)).edges.map Edge.pair) ∧
      (∀ link ∈ links,
        ¬ ReflTransGen (Graph.Step (mend w (safeFlaws w)).edges) link.2 link.1) ∧
      ∀ p s, (p, id) ∈ links → (id, s) ∈ links →
        ¬ ReflTransGen (Graph.Step (mend w (safeFlaws w)).edges) s p) := by
  rw [show mend w (safeFlaws w) = mended w from mend_safe w]
  obtain ⟨coverage, node, found, mem, rfl, rfl⟩ := exists_of_orphan orphan
  have ends : ∀ link ∈ proposedLinks (distinctNodes w.nodes) coverage node,
      link.1 ≠ link.2 ∧ link.1 ∈ w.nodeIds ∧ link.2 ∈ w.nodeIds :=
    fun link => ends_proposed mem
  refine ⟨ends, fun reconnects => ⟨fun link here _ _ => reconnects.new link here, ?_⟩, ?_⟩
  · exact (acyclic_proposed_iff mem).1 reconnects.acyclic
  · rintro ⟨apart, ways⟩
    refine ⟨ends, fun link here repeated => ?_, (acyclic_proposed_iff mem).2 ways⟩
    obtain ⟨source, target⟩ := orphans_of_repeated found mem here repeated
    exact apart link here source target repeated

/-- Two nodes off every way with an edge between them. -/
def straggling : Workflow :=
  { nodes := [{ id := "i", type := "input" }, { id := "x", type := "llm" },
      { id := "y", type := "tool" }, { id := "o", type := "output" }]
    edges := [{ source := "i", target := "o" }, { source := "x", target := "y" }] }

theorem reconnects_iff_straggling :
    Defect.orphan "x" [("i", "x"), ("x", "o")] ∈ defects straggling ∧
      Reconnects (mend straggling (safeFlaws straggling)) [("i", "x"), ("x", "o")] := by
  have orphan : Defect.orphan "x" [("i", "x"), ("x", "o")] ∈ defects straggling := by
    decide +kernel
  have lone : orphanIds straggling = ["x", "y"] := by decide +kernel
  refine ⟨orphan, (reconnects_iff orphan).2.2 ⟨?_, by decide +kernel, fun p s first second => ?_⟩⟩
  · rw [lone]
    decide
  · obtain rfl : p = "i" := by simpa using first
    obtain rfl : s = "o" := by simpa using second
    decide +kernel

/-- Three nodes off every way, and one of the edges between them goes down the ranking. -/
def entangled : Workflow :=
  { nodes := [{ id := "i", type := "input" }, { id := "a", type := "llm" },
      { id := "b", type := "llm" }, { id := "c", type := "branch" },
      { id := "o", type := "output" }]
    edges := [{ source := "i", target := "o", givenId := some "e1" },
      { source := "b", target := "c", givenId := some "e2" },
      { source := "c", target := "a", givenId := some "e3" }] }

/-- The link proposed from `a` to `c` closes a cycle with the edge from `c` to `a`, and that from
`b` to `c` is there already. -/
theorem not_reconnects_entangled :
    (Defect.orphan "a" [("i", "a"), ("a", "c")] ∈ defects entangled ∧
      ¬ Reconnects (mend entangled (safeFlaws entangled)) [("i", "a"), ("a", "c")]) ∧
    Defect.orphan "b" [("i", "b"), ("b", "c")] ∈ defects entangled ∧
      ¬ Reconnects (mend entangled (safeFlaws entangled)) [("i", "b"), ("b", "c")] := by
  refine ⟨⟨by decide +kernel, fun h => ?_⟩, by decide +kernel, fun h => ?_⟩
  · have back : ReflTransGen (Graph.Step (mend entangled (safeFlaws entangled)).edges) "c" "a" := by
      decide +kernel
    exact (acyclic_addEdge_iff.1 h.acyclic).2 (reach_addEdge_iff.2 (.inl back))
  · exact absurd (h.new ("b", "c") (by decide)) (by decide +kernel)

end Repair

end WorkflowRepair
