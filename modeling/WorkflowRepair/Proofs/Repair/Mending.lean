import Mathlib.Data.List.Nodup
import WorkflowRepair.Proofs.Graph.Cycle
import WorkflowRepair.Proofs.Repair.Outcome
import WorkflowRepair.Proofs.Repair.Terminals
import WorkflowRepair.Proofs.Validation.Edges

/-!
What the mending of edges leaves. Every edge that stays comes from a link that is no repetition and
closes no cycle; it has the ends of the link and an id, and no handle unless it leaves a branch.
The rest of it is as it was.
-/

namespace WorkflowRepair.Repair

open Validation (hasKind)

/-! ### Ends -/

theorem id_ne_of_mem_distinctAfter {seen : List String} {nodes : List Node} {n : Node}
    (h : n ∈ distinctAfter seen nodes) : n.id ≠ "" := by
  induction nodes generalizing seen with
  | nil => cases h
  | cons node rest ih =>
    unfold distinctAfter at h
    split at h
    · exact ih h
    · next new =>
      rcases List.mem_cons.1 h with rfl | later
      · exact (not_or.1 new).1
      · exact ih later

theorem id_ne_of_mem_distinctNodes {nodes : List Node} {n : Node} (h : n ∈ distinctNodes nodes) :
    n.id ≠ "" :=
  id_ne_of_mem_distinctAfter h

theorem fresh_distinctAfter (seen : List String) (nodes : List Node) :
    Validation.Fresh Node.id seen (distinctAfter seen nodes) := by
  induction nodes generalizing seen with
  | nil => exact ⟨List.nodup_nil, nofun⟩
  | cons node rest ih =>
    unfold distinctAfter
    split
    · exact ih seen
    · next new =>
      rw [not_or, List.contains_iff_mem] at new
      exact Validation.fresh_cons.2 ⟨new.2, ih _⟩

/-- Distinct nodes with one id are one node. -/
theorem eq_of_id_eq {nodes : List Node} {n n' : Node} (mem : n ∈ distinctNodes nodes)
    (mem' : n' ∈ distinctNodes nodes) (same : n.id = n'.id) : n = n' :=
  List.inj_on_of_nodup_map (fresh_distinctAfter [] nodes).1 mem mem' same

theorem distinctAfter_subset (seen : List String) (nodes : List Node) :
    distinctAfter seen nodes ⊆ nodes := by
  induction nodes generalizing seen with
  | nil => exact List.Subset.refl _
  | cons node rest ih =>
    unfold distinctAfter
    split
    · exact List.subset_cons_of_subset _ (ih seen)
    · exact List.cons_subset_cons _ (ih _)

theorem distinctNodes_subset (nodes : List Node) : distinctNodes nodes ⊆ nodes :=
  distinctAfter_subset [] nodes

/-- A name stands for the id of a node. -/
theorem mem_of_endpoint? {nodes : List Node} {name id : String}
    (h : endpoint? nodes name = some id) : id ∈ nodes.map Node.id := by
  unfold endpoint? at h
  split at h
  · cases h
  · split at h
    · next known =>
      cases h
      simpa using known
    · simp only [Option.orElse_eq_orElse, Option.orElse_eq_or, Option.or_eq_some_iff,
        Option.map_eq_some_iff, labelled?, normallyLabelled?] at h
      rcases h with ⟨n, found, rfl⟩ | ⟨-, ⟨n, found, rfl⟩ | ⟨-, n, found, rfl⟩⟩
      · unfold sameButCase? at found
        split at found
        · next alone =>
          cases found
          have mem : n ∈ nodes.filter fun n => Text.lower n.id == Text.lower name := by
            rw [alone]
            exact List.mem_singleton_self n
          exact List.mem_map_of_mem (List.mem_filter.1 mem).1
        · cases found
      · exact List.mem_map_of_mem (List.mem_of_find?_eq_some found)
      · exact List.mem_map_of_mem (List.mem_of_find?_eq_some found)

theorem endpoint?_of_mem {nodes : List Node} {id : String} (named : id ≠ "")
    (h : id ∈ nodes.map Node.id) : endpoint? nodes id = some id := by
  have known : (nodes.any fun n => n.id == id) = true := by simpa using h
  rw [endpoint?, if_neg named, if_pos known]

/-- What a name stands for stands for itself. -/
theorem endpoint?_endpoint? {nodes : List Node} {name id : String}
    (h : endpoint? (distinctNodes nodes) name = some id) :
    endpoint? (distinctNodes nodes) id = some id := by
  have known := mem_of_endpoint? h
  refine endpoint?_of_mem ?_ known
  obtain ⟨n, mem, rfl⟩ := List.mem_map.1 known
  exact id_ne_of_mem_distinctNodes mem

/-! ### Links -/

theorem link?_eq_some_iff {nodes : List Node} {entry : Edge × Nat} {l : Link} :
    link? nodes entry = some l ↔
      endpoint? nodes entry.1.source = some l.source ∧
        endpoint? nodes entry.1.target = some l.target ∧ l.index = entry.2 ∧ l.edge = entry.1 := by
  unfold link?
  constructor
  · intro h
    split at h
    · next source target =>
      cases h
      exact ⟨source, target, rfl, rfl⟩
    · cases h
  · rintro ⟨source, target, index, edge⟩
    rw [source, target]
    obtain ⟨_, _, _, _⟩ := l
    cases index
    cases edge
    rfl

theorem mem_links {nodes : List Node} {edges : List Edge} {l : Link} :
    l ∈ links nodes edges ↔
      edges[l.index]? = some l.edge ∧ link? nodes (l.edge, l.index) = some l := by
  rw [links, List.mem_filterMap]
  constructor
  · rintro ⟨⟨edge, index⟩, mem, found⟩
    obtain ⟨-, -, rfl, rfl⟩ := link?_eq_some_iff.1 found
    exact ⟨List.mem_zipIdx_iff_getElem?.1 mem, found⟩
  · rintro ⟨here, found⟩
    exact ⟨(l.edge, l.index), List.mem_zipIdx_iff_getElem?.2 here, found⟩

theorem places_ascend (edges : List Edge) : edges.zipIdx.Pairwise fun a b => a.2 < b.2 := by
  rw [← List.pairwise_map, List.zipIdx_map_snd]
  exact List.pairwise_lt_range'

theorem places_apart (edges : List Edge) : edges.zipIdx.Pairwise fun a b => a.2 ≠ b.2 :=
  (places_ascend edges).imp Nat.ne_of_lt

theorem firstLinks_sublist (seen : List (String × String)) (ls : List Link) :
    (firstLinks seen ls).Sublist ls := by
  induction ls generalizing seen with
  | nil => exact .refl _
  | cons l rest ih =>
    unfold firstLinks
    split
    · exact (ih seen).cons l
    · exact (ih _).cons_cons l

theorem first_append_repeated (seen : List (String × String)) (ls : List Link) :
    (firstLinks seen ls ++ repeatedLinks seen ls).Perm ls := by
  induction ls generalizing seen with
  | nil => exact .refl _
  | cons l rest ih =>
    unfold firstLinks repeatedLinks
    split
    · exact List.perm_middle.trans ((ih seen).cons l)
    · exact (ih _).cons l

/-- A link comes first or is a repetition. -/
theorem mem_first_or_repeated {seen : List (String × String)} {ls : List Link} {l : Link}
    (h : l ∈ ls) : l ∈ firstLinks seen ls ∨ l ∈ repeatedLinks seen ls :=
  List.mem_append.1 ((first_append_repeated seen ls).mem_iff.2 h)

/-- The links that come first have different ends. -/
theorem fresh_firstLinks (seen : List (String × String)) (ls : List Link) :
    Validation.Fresh Arc.ends seen (firstLinks seen ls) := by
  induction ls generalizing seen with
  | nil => exact ⟨List.nodup_nil, nofun⟩
  | cons l rest ih =>
    unfold firstLinks
    by_cases known : seen.contains (Arc.ends l) = true
    · rw [if_pos known]
      exact ih seen
    · rw [if_neg known, Validation.fresh_cons]
      exact ⟨mt List.contains_iff_mem.2 known, ih _⟩

theorem cutCycles_sublist (order : List String) (rounds : Nat) (ls : List Link) :
    (cutCycles order rounds ls).1.Sublist ls := by
  induction rounds generalizing ls with
  | zero => exact List.Sublist.refl _
  | succ rounds ih =>
    unfold cutCycles
    split
    · exact List.Sublist.refl _
    · exact (ih _).trans List.filter_sublist

/-- A link is left unless the link at its place is cut. -/
theorem mem_kept_or_cut {order : List String} {rounds : Nat} {ls : List Link} {l : Link}
    (h : l ∈ ls) : l ∈ (cutCycles order rounds ls).1 ∨
      ∃ cut ∈ (cutCycles order rounds ls).2, cut.index = l.index := by
  induction rounds generalizing ls with
  | zero => exact .inl h
  | succ rounds ih =>
    unfold cutCycles
    split
    · exact .inl h
    · next cut _ =>
      by_cases same : l.index = cut.index
      · exact .inr ⟨cut, List.mem_cons_self, same.symm⟩
      · have stays : l ∈ ls.filter fun l => l.index ≠ cut.index :=
          List.mem_filter.2 ⟨h, decide_eq_true same⟩
        rcases ih stays with mem | ⟨other, mem, index⟩
        · exact .inl mem
        · exact .inr ⟨other, List.mem_cons_of_mem _ mem, index⟩

/-- With as many rounds as links, no arc is left that closes a cycle. -/
theorem backEdge?_cutCycles {order : List String} {rounds : Nat} {ls : List Link}
    (enough : ls.length ≤ rounds) :
    Graph.backEdge? order (cutCycles order rounds ls).1 = none := by
  induction rounds generalizing ls with
  | zero =>
    obtain rfl : ls = [] := List.eq_nil_of_length_eq_zero (Nat.le_zero.1 enough)
    cases found : Graph.backEdge? order (cutCycles order 0 ([] : List Link)).1 with
    | none => rfl
    | some l => cases (Graph.loop_of_backEdge? found).1
  | succ rounds ih =>
    unfold cutCycles
    split
    · next none => exact none
    · next cut found =>
      refine ih ?_
      have fewer : (ls.filter fun l => l.index ≠ cut.index).length < ls.length :=
        List.length_filter_lt_length_iff_exists.2
          ⟨cut, (Graph.loop_of_backEdge? found).1, by simp⟩
      omega

/-! ### Flaws -/

/-- The links of a workflow that its repair keeps. -/
def keptLinks (w : Workflow) : List Link :=
  let nodes := distinctNodes w.nodes
  (withoutCycles (nodes.map Node.id) (firstLinks [] (links nodes w.edges))).1

def cutLinks (w : Workflow) : List Link :=
  let nodes := distinctNodes w.nodes
  (withoutCycles (nodes.map Node.id) (firstLinks [] (links nodes w.edges))).2

/-- The flaws of the edges, in the order of their repair. -/
def edgeFlaws (w : Workflow) : List EdgeFlaw :=
  let nodes := distinctNodes w.nodes
  w.edges.zipIdx.flatMap (endFlaws nodes)
    ++ (repeatedLinks [] (links nodes w.edges)).map (fun l => l.flaw .duplicate)
    ++ (cutLinks w).map (fun l => l.flaw .cycle)
    ++ (strayLinks nodes (keptLinks w)).map (fun l => l.flaw .strayHandle)
    ++ idFlaws ((keptLinks w).filterMap fun l => l.edge.id) (keptLinks w)

theorem filterMap_flaw?_edge (flaws : List EdgeFlaw) :
    (flaws.map Defect.edge).filterMap Defect.flaw? = flaws := by
  rw [List.filterMap_map]
  exact List.filterMap_some

theorem filterMap_flaw?_orphan (nodes : List Node) (ls : List Link) :
    (orphanDefects nodes ls).filterMap Defect.flaw? = [] := by
  refine List.filterMap_eq_nil_iff.2 fun d hd => ?_
  unfold orphanDefects at hd
  split at hd
  · cases hd
  · obtain ⟨n, -, rfl⟩ := List.mem_map.1 hd
    rfl

theorem filterMap_flaw?_defects (w : Workflow) :
    (defects w).filterMap Defect.flaw? = edgeFlaws w := by
  have made {ls : List Link} {kind : FlawKind} :
      (ls.map fun l => Defect.edge (l.flaw kind)).filterMap Defect.flaw? =
        ls.map fun l => l.flaw kind := by
    rw [List.filterMap_map]
    show ls.filterMap (some ∘ fun l => l.flaw kind) = _
    rw [List.filterMap_eq_map]
  simp only [defects, edgeFlaws, List.filterMap_append, filterMap_flaw?_edge,
    filterMap_flaw?_orphan, made, List.append_nil, keptLinks, cutLinks]

theorem edges_mended (w : Workflow) :
    (mended w).edges = w.edges.zipIdx.filterMap (mendEdge? (edgeFlaws w)) := by
  rw [mended, mend, filterMap_flaw?_defects]

theorem nodes_mended (w : Workflow) : (mended w).nodes = w.nodes := rfl

theorem keptLinks_subset (w : Workflow) :
    keptLinks w ⊆ links (distinctNodes w.nodes) w.edges :=
  List.Subset.trans (cutCycles_sublist _ _ _).subset (firstLinks_sublist _ _).subset

/-- Fresh ids all begin with the same letters. -/
theorem freshId_ne_empty (source target : String) (used : List String) :
    freshId source target used ≠ "" := by
  intro empty
  rw [freshId] at empty
  rcases freshName_cases ("edge_" ++ source ++ "_" ++ target) "_" used with same | ⟨k, same⟩
  · rw [same] at empty
    simp [String.append_eq_empty_iff] at empty
  · rw [same] at empty
    simp [String.append_eq_empty_iff] at empty

theorem mem_idFlaws {used : List String} {ls : List Link} {flaw : EdgeFlaw}
    (h : flaw ∈ idFlaws used ls) :
    ∃ l ∈ ls, l.edge.id = none ∧ ∃ fresh, fresh ≠ "" ∧ flaw = l.flaw (.missingId fresh) := by
  induction ls generalizing used with
  | nil => cases h
  | cons l rest ih =>
    unfold idFlaws at h
    split at h
    · obtain ⟨other, mem, none⟩ := ih h
      exact ⟨other, List.mem_cons_of_mem _ mem, none⟩
    · next unnamed =>
      rcases List.mem_cons.1 h with rfl | later
      · exact ⟨l, List.mem_cons_self, unnamed, _, freshId_ne_empty _ _ _, rfl⟩
      · obtain ⟨other, mem, none⟩ := ih later
        exact ⟨other, List.mem_cons_of_mem _ mem, none⟩

/-- Every link without an id gets one. -/
theorem exists_idFlaw {used : List String} {ls : List Link} {l : Link} (h : l ∈ ls)
    (unnamed : l.edge.id = none) :
    ∃ fresh, fresh ≠ "" ∧ l.flaw (.missingId fresh) ∈ idFlaws used ls := by
  induction ls generalizing used with
  | nil => cases h
  | cons first rest ih =>
    unfold idFlaws
    rcases List.mem_cons.1 h with rfl | later
    · rw [unnamed]
      exact ⟨_, freshId_ne_empty _ _ _, List.mem_cons_self⟩
    · split
      · exact ih later
      · obtain ⟨fresh, given, mem⟩ := ih later
        exact ⟨fresh, given, List.mem_cons_of_mem _ mem⟩

theorem mem_endFlaws {nodes : List Node} {entry : Edge × Nat} {flaw : EdgeFlaw}
    (h : flaw ∈ endFlaws nodes entry) : flaw.index = entry.2 ∧
      (flaw.kind = .dangling ∨
        ∃ l side written, link? nodes entry = some l ∧ flaw = l.flaw (.alias side written)) := by
  unfold endFlaws at h
  cases found : link? nodes entry with
  | none =>
    simp only [found, List.mem_singleton] at h
    subst h
    exact ⟨rfl, .inl rfl⟩
  | some l =>
    obtain ⟨-, -, index, -⟩ := link?_eq_some_iff.1 found
    simp only [found, List.mem_append] at h
    rcases h with h | h
    all_goals
      split at h
      · cases h
      · rw [List.mem_singleton] at h
        subst h
        exact ⟨index, .inr ⟨l, _, _, rfl, rfl⟩⟩

/-- A flaw of a link that does not cost the edge: what its mending may do to the edge. -/
structure Mends (l : Link) (flaw : EdgeFlaw) : Prop where
  source : flaw.source = l.source
  target : flaw.target = l.target
  unnamed : ∀ fresh, flaw.kind = .missingId fresh → l.edge.id = none

/-- The flaws at the place of a link either cost the edge or mend it by the link. -/
theorem removes_or_mends {w : Workflow} {l : Link} {flaw : EdgeFlaw}
    (link : l ∈ links (distinctNodes w.nodes) w.edges) (mem : flaw ∈ edgeFlaws w)
    (here : flaw.index = l.index) :
    flaw.kind.removes = true ∨ Mends l flaw := by
  have only {other : Link} (h : other ∈ links (distinctNodes w.nodes) w.edges)
      (place : other.index = l.index) : other = l := by
    obtain ⟨edge, found⟩ := mem_links.1 link
    obtain ⟨edge', found'⟩ := mem_links.1 h
    rw [place, edge] at edge'
    rw [place, ← Option.some.inj edge', found] at found'
    exact (Option.some.inj found').symm
  simp only [edgeFlaws, List.mem_append, List.mem_map, List.mem_flatMap] at mem
  rcases mem with (((⟨⟨edge, index⟩, entry, ends⟩ | ⟨other, -, rfl⟩) | ⟨other, -, rfl⟩) |
    ⟨other, stray, rfl⟩) | id
  · obtain ⟨place, dangling | ⟨other, side, written, found, rfl⟩⟩ := mem_endFlaws ends
    · rw [dangling]
      exact .inl rfl
    · obtain ⟨-, -, index', rfl⟩ := link?_eq_some_iff.1 found
      have known : other ∈ links (distinctNodes w.nodes) w.edges := by
        refine mem_links.2 ⟨?_, index' ▸ found⟩
        rw [index']
        exact List.mem_zipIdx_iff_getElem?.1 entry
      obtain rfl := only known here
      exact .inr ⟨rfl, rfl, nofun⟩
  · exact .inl rfl
  · exact .inl rfl
  · have kept := (List.mem_filter.1 stray).1
    obtain rfl := only (keptLinks_subset w kept) here
    exact .inr ⟨rfl, rfl, nofun⟩
  · obtain ⟨other, kept, unnamed, fresh, -, rfl⟩ := mem_idFlaws id
    obtain rfl := only (keptLinks_subset w kept) here
    exact .inr ⟨rfl, rfl, fun _ _ => unnamed⟩

/-! ### Edges -/

/-- What is left of the edge of a link: it has the ends of the link and an id, its handle is gone or
may stay, and the rest of it is as it was. -/
structure MendedBy (nodes : List Node) (l : Link) (edge : Edge) : Prop where
  source : edge.source = l.source
  target : edge.target = l.target
  named : edge.id ≠ none
  sameId : ∀ id, l.edge.id = some id → edge.id = some id
  plain : edge.hasHandle = true → hasKind nodes l.source .branch = true
  targetHandle : edge.targetHandle = l.edge.targetHandle
  extra : edge.extra = l.edge.extra

/-! ### One mending -/

section Amend

variable (e : Edge) (flaw : EdgeFlaw)

theorem targetHandle_amend : (amend e flaw).targetHandle = e.targetHandle := by
  fun_cases amend e flaw <;> rfl

theorem extra_amend : (amend e flaw).extra = e.extra := by
  fun_cases amend e flaw <;> rfl

variable {e flaw}

theorem id_amend_missingId {fresh : String} (kind : flaw.kind = .missingId fresh)
    (given : fresh ≠ "") : (amend e flaw).id = some fresh := by
  simp [amend, kind, given, Edge.id]

theorem id_amend_of_ne (other : ∀ fresh, flaw.kind ≠ .missingId fresh) :
    (amend e flaw).id = e.id := by
  cases kind : flaw.kind with
  | missingId fresh => exact absurd kind (other fresh)
  | «alias» =>
    simp only [amend, kind]
    rfl
  | strayHandle =>
    simp only [amend, kind]
    rfl
  | _ => simp only [amend, kind]

theorem id_amend_ne_none (named : e.id ≠ none) : (amend e flaw).id ≠ none := by
  cases kind : flaw.kind with
  | missingId fresh =>
    by_cases empty : fresh = ""
    · simpa only [amend, kind, empty, if_true] using named
    · rw [id_amend_missingId kind empty]
      exact nofun
  | _ =>
    rw [id_amend_of_ne (by simp [kind])]
    exact named

end Amend

/-- What every mending keeps and one of them, or the start, brings about is true in the end. -/
theorem foldl_amend (holds : Edge → Prop) {flaws : List EdgeFlaw} {edge : Edge}
    (keep : ∀ flaw ∈ flaws, ∀ e, holds e → holds (amend e flaw))
    (start : holds edge ∨ ∃ flaw ∈ flaws, ∀ e, holds (amend e flaw)) :
    holds (flaws.foldl amend edge) := by
  induction flaws generalizing edge with
  | nil =>
    rcases start with now | ⟨flaw, mem, -⟩
    · exact now
    · cases mem
  | cons flaw rest ih =>
    obtain ⟨here, later⟩ := List.forall_mem_cons.1 keep
    refine ih later ?_
    rcases start with now | ⟨other, mem, made⟩
    · exact .inl (here edge now)
    · rcases List.mem_cons.1 mem with rfl | mem
      · exact .inl (made edge)
      · exact .inr ⟨other, mem, made⟩

theorem exists_endFlaw {nodes : List Node} {l : Link}
    (found : link? nodes (l.edge, l.index) = some l)
    (other : ¬ (l.edge.source = l.source ∧ l.edge.target = l.target)) :
    ∃ side written, l.flaw (.alias side written) ∈ endFlaws nodes (l.edge, l.index) := by
  rw [endFlaws, found]
  by_cases source : l.edge.source = l.source
  · have target : ¬ l.edge.target = l.target := fun same => other ⟨source, same⟩
    exact ⟨.target, l.edge.target, by simp [target]⟩
  · exact ⟨.source, l.edge.source, by simp [source]⟩

/-- The flaws of the edge at a place. -/
def flawsAt (w : Workflow) (index : Nat) : List EdgeFlaw :=
  (edgeFlaws w).filter fun f => f.index == index

theorem mem_flawsAt {w : Workflow} {index : Nat} {flaw : EdgeFlaw} :
    flaw ∈ flawsAt w index ↔ flaw ∈ edgeFlaws w ∧ flaw.index = index := by
  simp [flawsAt, List.mem_filter]

theorem mendEdge?_eq_some {w : Workflow} {entry : Edge × Nat} {after : Edge}
    (h : mendEdge? (edgeFlaws w) entry = some after) :
    (∀ flaw ∈ flawsAt w entry.2, ¬ flaw.kind.removes = true) ∧
      after = (flawsAt w entry.2).foldl amend entry.1 := by
  simp only [mendEdge?] at h
  split at h
  · cases h
  · next intact =>
    cases h
    exact ⟨fun flaw mem removes => intact (List.any_eq_true.2 ⟨flaw, mem, removes⟩), rfl⟩

/-- An edge that no flaw removes has a link, and its link is kept. -/
theorem exists_keptLink {w : Workflow} {edge : Edge} {index : Nat}
    (here : w.edges[index]? = some edge)
    (stays : ∀ flaw ∈ flawsAt w index, ¬ flaw.kind.removes = true) :
    ∃ l ∈ keptLinks w, l.index = index ∧ l.edge = edge := by
  cases found : link? (distinctNodes w.nodes) (edge, index) with
  | none =>
    have dangling : ⟨.dangling, index, edge.source, edge.target, edge.givenId⟩ ∈ edgeFlaws w := by
      simp only [edgeFlaws, List.mem_append, List.mem_flatMap]
      refine .inl (.inl (.inl (.inl ⟨(edge, index), List.mem_zipIdx_iff_getElem?.2 here, ?_⟩)))
      simp [endFlaws, found]
    exact absurd rfl (stays _ (mem_flawsAt.2 ⟨dangling, rfl⟩))
  | some l =>
    obtain ⟨-, -, rfl, rfl⟩ := link?_eq_some_iff.1 found
    refine ⟨l, ?_, rfl, rfl⟩
    rcases mem_first_or_repeated (mem_links.2 ⟨here, found⟩) with first | repeated
    · rcases mem_kept_or_cut first with kept | ⟨cut, mem, place⟩
      · exact kept
      · have flaw : cut.flaw .cycle ∈ edgeFlaws w := by
          simp only [edgeFlaws, List.mem_append]
          exact .inl (.inl (.inr (List.mem_map_of_mem mem)))
        exact absurd rfl (stays _ (mem_flawsAt.2 ⟨flaw, place⟩))
    · have flaw : l.flaw .duplicate ∈ edgeFlaws w := by
        simp only [edgeFlaws, List.mem_append]
        exact .inl (.inl (.inl (.inr (List.mem_map_of_mem repeated))))
      exact absurd rfl (stays _ (mem_flawsAt.2 ⟨flaw, rfl⟩))

section Mending

variable {w : Workflow} {l : Link} (kept : l ∈ keptLinks w)
  (mending : ∀ flaw ∈ flawsAt w l.index, Mends l flaw)

include kept mending

theorem ends_foldl_amend :
    ((flawsAt w l.index).foldl amend l.edge).source = l.source ∧
      ((flawsAt w l.index).foldl amend l.edge).target = l.target := by
  refine foldl_amend (fun e => e.source = l.source ∧ e.target = l.target) ?_ ?_
  · intro flaw mem e now
    fun_cases amend e flaw
    · exact ⟨(mending flaw mem).source, (mending flaw mem).target⟩
    all_goals exact now
  · by_cases now : l.edge.source = l.source ∧ l.edge.target = l.target
    · exact .inl now
    · obtain ⟨here, found⟩ := mem_links.1 (keptLinks_subset w kept)
      obtain ⟨side, written, mem⟩ := exists_endFlaw found now
      have flaw : l.flaw (.alias side written) ∈ edgeFlaws w := by
        simp only [edgeFlaws, List.mem_append, List.mem_flatMap]
        exact .inl (.inl (.inl (.inl ⟨_, List.mem_zipIdx_iff_getElem?.2 here, mem⟩)))
      exact .inr ⟨_, mem_flawsAt.2 ⟨flaw, rfl⟩, fun e => ⟨rfl, rfl⟩⟩

omit mending in
theorem id_foldl_amend : ((flawsAt w l.index).foldl amend l.edge).id ≠ none := by
  refine foldl_amend (fun e => e.id ≠ none) ?_ ?_
  · exact fun flaw _ e now => id_amend_ne_none now
  · by_cases unnamed : l.edge.id = none
    · obtain ⟨fresh, given, mem⟩ := exists_idFlaw kept unnamed
      have flaw : l.flaw (.missingId fresh) ∈ edgeFlaws w := by
        simp only [edgeFlaws, List.mem_append]
        exact .inr mem
      refine .inr ⟨_, mem_flawsAt.2 ⟨flaw, rfl⟩, fun e => ?_⟩
      rw [id_amend_missingId rfl given]
      exact nofun
    · exact .inl unnamed

omit kept in
theorem sameId_foldl_amend {id : String} (given : l.edge.id = some id) :
    ((flawsAt w l.index).foldl amend l.edge).id = some id := by
  refine foldl_amend (fun e => e.id = some id) ?_ (.inl given)
  intro flaw mem e now
  cases kind : flaw.kind with
  | missingId fresh =>
    rw [(mending flaw mem).unnamed fresh kind] at given
    cases given
  | _ =>
    rw [id_amend_of_ne (by simp [kind])]
    exact now

omit mending in
theorem plain_foldl_amend :
    ((flawsAt w l.index).foldl amend l.edge).hasHandle = true →
      hasKind (distinctNodes w.nodes) l.source .branch = true := by
  refine foldl_amend (fun e => e.hasHandle = true →
    hasKind (distinctNodes w.nodes) l.source .branch = true) ?_ ?_
  · intro flaw _ e now
    fun_cases amend e flaw
    · exact now
    · exact nofun
    all_goals exact now
  · by_cases stray : (l.edge.hasHandle &&
        !hasKind (distinctNodes w.nodes) l.source .branch) = true
    · have flaw : l.flaw .strayHandle ∈ edgeFlaws w := by
        simp only [edgeFlaws, List.mem_append]
        exact .inl (.inr (List.mem_map_of_mem (List.mem_filter.2 ⟨kept, stray⟩)))
      refine .inr ⟨_, mem_flawsAt.2 ⟨flaw, rfl⟩, fun e now => ?_⟩
      cases now
    · left
      intro handle
      simpa [handle] using stray

theorem mendedBy_foldl_amend :
    MendedBy (distinctNodes w.nodes) l ((flawsAt w l.index).foldl amend l.edge) := by
  obtain ⟨source, target⟩ := ends_foldl_amend kept mending
  refine ⟨source, target, id_foldl_amend kept, fun id => sameId_foldl_amend mending,
    plain_foldl_amend kept, ?_, ?_⟩
  · refine foldl_amend (fun e => e.targetHandle = l.edge.targetHandle) ?_ (.inl rfl)
    exact fun flaw _ e now => (targetHandle_amend e flaw).trans now
  · refine foldl_amend (fun e => e.extra = l.edge.extra) ?_ (.inl rfl)
    exact fun flaw _ e now => (extra_amend e flaw).trans now

end Mending

/-- An edge that stays comes from a link that is kept, and is mended by it. -/
theorem exists_of_mendEdge? {w : Workflow} {edge after : Edge} {index : Nat}
    (here : w.edges[index]? = some edge)
    (h : mendEdge? (edgeFlaws w) (edge, index) = some after) :
    ∃ l ∈ keptLinks w, l.index = index ∧ l.edge = edge ∧
      MendedBy (distinctNodes w.nodes) l after := by
  obtain ⟨stays, rfl⟩ := mendEdge?_eq_some h
  obtain ⟨l, kept, rfl, rfl⟩ := exists_keptLink here stays
  have mending : ∀ flaw ∈ flawsAt w l.index, Mends l flaw := by
    intro flaw mem
    obtain ⟨known, place⟩ := mem_flawsAt.1 mem
    exact (removes_or_mends (keptLinks_subset w kept) known place).resolve_left (stays flaw mem)
  exact ⟨l, kept, rfl, rfl, mendedBy_foldl_amend kept mending⟩

end WorkflowRepair.Repair
