import WorkflowRepair.Proofs.Graph.Forest
import WorkflowRepair.Proofs.Repair.Steady

/-!
Which edges a structural repair drops. All searches for closing links go the same way, so the links
by which they come to new nodes stay, and with them a way back for every link that is cut. An edge
that is dropped could not be put back: an end of it stands for no node, or its ends are joined
already, or it would close a cycle.
-/

namespace WorkflowRepair.Repair

open Relation

/-! ### Cut links -/

variable {order : List String} {rounds : Nat} {ls : List Link}

theorem cutCycles_surveyed {s : Graph.Survey Link} (surveyed : Graph.Surveyed ls [] order s)
    (places : (ls.map Link.index).Nodup) :
    s.tree ⊆ (cutCycles order rounds ls).1 ∧ (cutCycles order rounds ls).2 ⊆ s.closing := by
  induction rounds generalizing ls s with
  | zero => exact ⟨surveyed.tree_subset, List.nil_subset _⟩
  | succ rounds ih =>
    unfold cutCycles
    split
    · exact ⟨surveyed.tree_subset, List.nil_subset _⟩
    · next cut found =>
      have here := (Graph.loop_of_backEdge? found).1
      rw [surveyed.backEdge?_eq] at found
      obtain ⟨others, closing⟩ := List.head?_eq_some_iff.1 found
      have keeps : ∀ l ∈ ls, decide (l.index ≠ cut.index) = true ↔ l ≠ cut := by
        intro l mem
        rw [decide_eq_true_iff]
        refine not_congr ⟨fun same => ?_, fun same => congrArg _ same⟩
        exact List.inj_on_of_nodup_map places mem here same
      obtain ⟨tree, cuts⟩ := ih (surveyed.without keeps (List.Nodup.of_map _ places) closing)
        (places.sublist (List.filter_sublist.map _))
      refine ⟨tree, ?_⟩
      rw [closing]
      exact List.cons_subset_cons cut cuts

/-- The links that are left lead from the end of each cut link back to its start. -/
theorem way_back_of_cut (places : (ls.map Link.index).Nodup) :
    ∀ cut ∈ (cutCycles order rounds ls).2,
      ReflTransGen (Graph.Step (cutCycles order rounds ls).1) cut.target cut.source := by
  obtain ⟨s, surveyed⟩ := Graph.exists_surveyed ls [] order
  obtain ⟨tree, cuts⟩ := cutCycles_surveyed surveyed places
  exact fun cut mem => surveyed.way_back tree cut (cuts mem)

theorem index_ne_of_cut : ∀ cut ∈ (cutCycles order rounds ls).2,
    ∀ l ∈ (cutCycles order rounds ls).1, l.index ≠ cut.index := by
  induction rounds generalizing ls with
  | zero => exact nofun
  | succ rounds ih =>
    unfold cutCycles
    split
    · exact nofun
    · refine List.forall_mem_cons.2 ⟨fun l mem => ?_, ih⟩
      have stays := (cutCycles_sublist _ _ _).subset mem
      exact of_decide_eq_true (List.mem_filter.1 stays).2

theorem cut_subset : (cutCycles order rounds ls).2 ⊆ ls := by
  induction rounds generalizing ls with
  | zero => exact List.nil_subset _
  | succ rounds ih =>
    unfold cutCycles
    split
    · exact List.nil_subset _
    · next cut found =>
      have here := (Graph.loop_of_backEdge? found).1
      exact List.cons_subset.2 ⟨here, List.Subset.trans ih List.filter_sublist.subset⟩

/-! ### Repeated links -/

/-- The ends of a repeated link were seen or are those of a first link. -/
theorem exists_first_of_repeated {seen : List (String × String)} {l : Link}
    (h : l ∈ repeatedLinks seen ls) :
    Arc.ends l ∈ seen ∨ ∃ first ∈ firstLinks seen ls, Arc.ends first = Arc.ends l := by
  induction ls generalizing seen with
  | nil => cases h
  | cons other rest ih =>
    unfold repeatedLinks at h
    unfold firstLinks
    by_cases known : seen.contains (Arc.ends other) = true
    · rw [if_pos known] at h ⊢
      rcases List.mem_cons.1 h with rfl | later
      · exact .inl (List.contains_iff_mem.1 known)
      · exact ih later
    · rw [if_neg known] at h ⊢
      rcases ih h with old | ⟨first, mem, same⟩
      · rcases List.mem_cons.1 old with same | old
        · exact .inr ⟨other, List.mem_cons_self, same.symm⟩
        · exact .inl old
      · exact .inr ⟨first, List.mem_cons_of_mem _ mem, same⟩

/-! ### Links of a workflow -/

variable {w : Workflow} {l : Link}

theorem ascending_links (nodes : List Node) (edges : List Edge) :
    (links nodes edges).Pairwise fun l l' => l.index < l'.index := by
  rw [links, List.pairwise_filterMap]
  refine (places_ascend edges).imp fun {a b} before l found l' found' => ?_
  obtain ⟨-, -, index, -⟩ := link?_eq_some_iff.1 found
  obtain ⟨-, -, index', -⟩ := link?_eq_some_iff.1 found'
  rwa [index, index']

theorem nodup_places (nodes : List Node) (edges : List Edge) :
    ((links nodes edges).map Link.index).Nodup := by
  rw [List.Nodup, List.pairwise_map]
  exact (ascending_links nodes edges).imp Nat.ne_of_lt

theorem nodup_firstPlaces (w : Workflow) :
    ((firstLinks [] (links (distinctNodes w.nodes) w.edges)).map Link.index).Nodup :=
  (nodup_places _ _).sublist ((firstLinks_sublist _ _).map _)

/-- A first link is kept, or else cut. -/
theorem kept_or_cut (first : l ∈ firstLinks [] (links (distinctNodes w.nodes) w.edges)) :
    l ∈ keptLinks w ∨ l ∈ cutLinks w := by
  rcases mem_kept_or_cut first with kept | ⟨cut, mem, place⟩
  · exact .inl kept
  · have same : cut = l :=
      List.inj_on_of_nodup_map (nodup_firstPlaces w) (cut_subset mem) first place
    exact .inr (same ▸ mem)

theorem dangling_of_endFlaws {nodes : List Node} {entry : Edge × Nat} {flaw : EdgeFlaw}
    (mem : flaw ∈ endFlaws nodes entry) (removes : flaw.kind.removes = true) :
    link? nodes entry = none := by
  cases found : link? nodes entry with
  | none => rfl
  | some l =>
    simp only [endFlaws, found, List.mem_append, List.mem_ite_nil_left, List.mem_singleton] at mem
    rcases mem with ⟨-, rfl⟩ | ⟨-, rfl⟩ <;> cases removes

/-- What costs the edge at a place: it has no link, or its link is a repetition or is cut. -/
theorem cause_of_dropped {edge : Edge} {place : Nat} (here : w.edges[place]? = some edge)
    (dropped : mendEdge? (edgeFlaws w) (edge, place) = none) :
    link? (distinctNodes w.nodes) (edge, place) = none ∨
      ∃ l, link? (distinctNodes w.nodes) (edge, place) = some l ∧
        (l ∈ repeatedLinks [] (links (distinctNodes w.nodes) w.edges) ∨ l ∈ cutLinks w) := by
  have linked {l : Link} (mem : l ∈ links (distinctNodes w.nodes) w.edges)
      (index : l.index = place) : link? (distinctNodes w.nodes) (edge, place) = some l := by
    obtain ⟨there, found⟩ := mem_links.1 mem
    rw [index, here] at there
    rwa [index, ← Option.some.inj there] at found
  obtain ⟨flaw, known, index, removes⟩ : ∃ flaw ∈ edgeFlaws w, flaw.index = place ∧
      flaw.kind.removes = true := by
    simpa [mendEdge?, and_assoc] using dropped
  simp only [edgeFlaws, List.mem_append, List.mem_map, List.mem_flatMap] at known
  rcases known with (((⟨⟨edge', place'⟩, entry, ends⟩ | ⟨l, repeated, rfl⟩) | ⟨l, cut, rfl⟩) |
    ⟨l, -, rfl⟩) | id
  · obtain rfl : place' = place := (mem_endFlaws ends).1.symm.trans index
    have there := List.mem_zipIdx_iff_getElem?.1 entry
    obtain rfl : edge' = edge := Option.some.inj (there.symm.trans here)
    exact .inl (dangling_of_endFlaws ends removes)
  · have mem := (first_append_repeated [] _).subset (List.mem_append_right _ repeated)
    exact .inr ⟨l, linked mem index, .inl repeated⟩
  · have mem := (firstLinks_sublist _ _).subset (cut_subset cut)
    exact .inr ⟨l, linked mem index, .inr cut⟩
  · cases removes
  · obtain ⟨l, -, -, fresh, -, rfl⟩ := mem_idFlaws id
    cases removes

theorem mem_mended {edge e : Edge} {place : Nat} (here : w.edges[place]? = some edge)
    (after : mendEdge? (edgeFlaws w) (edge, place) = some e) : e ∈ (mended w).edges := by
  rw [edges_mended]
  exact List.mem_filterMap.2 ⟨_, List.mem_zipIdx_iff_getElem?.2 here, after⟩

/-- The edge of a link that is kept stays. -/
theorem exists_mendEdge?_of_kept (kept : l ∈ keptLinks w) :
    ∃ e, mendEdge? (edgeFlaws w) (l.edge, l.index) = some e := by
  obtain ⟨here, found⟩ := mem_links.1 (keptLinks_subset w kept)
  have first := (cutCycles_sublist _ _ _).subset kept
  rw [← Option.ne_none_iff_exists']
  intro gone
  rcases cause_of_dropped here gone with none | ⟨l', found', repeated | cut⟩
  · cases none.symm.trans found
  · obtain rfl : l = l' := Option.some.inj (found.symm.trans found')
    have distinct := (first_append_repeated [] _).nodup_iff.2 (List.Nodup.of_map _ (nodup_places
      (distinctNodes w.nodes) w.edges))
    exact absurd rfl ((List.nodup_append.1 distinct).2.2 l first l repeated)
  · obtain rfl : l = l' := Option.some.inj (found.symm.trans found')
    exact absurd rfl (index_ne_of_cut l cut l kept)

theorem exists_mended_of_kept (kept : l ∈ keptLinks w) :
    ∃ e ∈ (mended w).edges, e.source = l.source ∧ e.target = l.target := by
  obtain ⟨here, -⟩ := mem_links.1 (keptLinks_subset w kept)
  obtain ⟨e, after⟩ := exists_mendEdge?_of_kept kept
  obtain ⟨other, kept', index, -, made⟩ := exists_of_mendEdge? here after
  obtain rfl : other = l :=
    List.inj_on_of_nodup_map (nodup_places _ _) (keptLinks_subset w kept')
      (keptLinks_subset w kept) index
  exact ⟨e, mem_mended here after, made.source, made.target⟩

theorem step_mended {a b : String} (h : Graph.Step (keptLinks w) a b) :
    Graph.Step (mended w).edges a b := by
  obtain ⟨l, kept, rfl, rfl⟩ := h
  obtain ⟨e, mem, source, target⟩ := exists_mended_of_kept kept
  exact ⟨e, mem, source, target⟩

theorem way_back_mended (cut : l ∈ cutLinks w) :
    ReflTransGen (Graph.Step (mended w).edges) l.target l.source :=
  ReflTransGen.mono (fun _ _ => step_mended) _ _ (way_back_of_cut (nodup_firstPlaces w) l cut)

theorem exists_mended_of_first (first : l ∈ firstLinks [] (links (distinctNodes w.nodes) w.edges)) :
    (∃ e ∈ (mended w).edges, e.source = l.source ∧ e.target = l.target) ∨
      ReflTransGen (Graph.Step (mended w).edges) l.target l.source := by
  rcases kept_or_cut first with kept | cut
  · exact .inl (exists_mended_of_kept kept)
  · exact .inr (way_back_mended cut)

/-! ### Edges that are dropped -/

/-- The edge cannot be put back: an end of it stands for no node, or an edge with its ends is there,
or a way leads from its target to its source. -/
def Unfit (w fixed : Workflow) (edge : Edge) : Prop :=
  endpoint? (distinctNodes w.nodes) edge.source = none ∨
    endpoint? (distinctNodes w.nodes) edge.target = none ∨
      ∃ s t, endpoint? (distinctNodes w.nodes) edge.source = some s ∧
        endpoint? (distinctNodes w.nodes) edge.target = some t ∧
          ((∃ e ∈ fixed.edges, e.source = s ∧ e.target = t) ∨
            ReflTransGen (Graph.Step fixed.edges) t s)

theorem unfit_of_link?_none {edge : Edge} {place : Nat} (fixed : Workflow)
    (none : link? (distinctNodes w.nodes) (edge, place) = none) : Unfit w fixed edge := by
  unfold link? at none
  split at none
  · cases none
  · next ends =>
    cases source : endpoint? (distinctNodes w.nodes) edge.source with
    | none => exact .inl source
    | some s =>
      cases target : endpoint? (distinctNodes w.nodes) edge.target with
      | none => exact .inr (.inl target)
      | some t => exact absurd target (ends s t source)

theorem unfit_of_dropped {edge : Edge} {place : Nat} (here : w.edges[place]? = some edge)
    (dropped : mendEdge? (edgeFlaws w) (edge, place) = none) : Unfit w (mended w) edge := by
  rcases cause_of_dropped here dropped with none | ⟨l, found, repeated | cut⟩
  · exact unfit_of_link?_none _ none
  · obtain ⟨source, target, -, -⟩ := link?_eq_some_iff.1 found
    obtain ⟨first, mem, ends⟩ := (exists_first_of_repeated repeated).resolve_left List.not_mem_nil
    obtain ⟨source', target'⟩ := Prod.ext_iff.1 ends
    have joined := exists_mended_of_first mem
    rw [show first.source = l.source from source', show first.target = l.target from target']
      at joined
    exact .inr (.inr ⟨_, _, source, target, joined⟩)
  · obtain ⟨source, target, -, -⟩ := link?_eq_some_iff.1 found
    exact .inr (.inr ⟨_, _, source, target, .inr (way_back_mended cut)⟩)

/-- The flaws of the defects that can be mended without guessing. -/
def safeFlaws (w : Workflow) : List EdgeFlaw :=
  ((defects w).filter Defect.isSafe).filterMap Defect.flaw?

theorem safeFlaws_eq (w : Workflow) : safeFlaws w = edgeFlaws w := by
  rw [← filterMap_flaw?_defects, safeFlaws, List.filterMap_filter]
  refine List.filterMap_congr fun d _ => ?_
  cases d <;> rfl

/-- An edge is dropped only when it cannot be put back. One that is not dropped stays between the
nodes that its ends stand for, and no way leads from its target to its source. -/
theorem dropped_or_stays (w : Workflow) {edge : Edge} {place : Nat}
    (here : w.edges[place]? = some edge) :
    (mendEdge? (safeFlaws w) (edge, place) = none → Unfit w (mend w (safeFlaws w)) edge) ∧
      ∀ e, mendEdge? (safeFlaws w) (edge, place) = some e →
        e ∈ (mend w (safeFlaws w)).edges ∧
          endpoint? (distinctNodes w.nodes) edge.source = some e.source ∧
          endpoint? (distinctNodes w.nodes) edge.target = some e.target ∧
          ¬ ReflTransGen (Graph.Step (mend w (safeFlaws w)).edges) e.target e.source := by
  rw [show mend w (safeFlaws w) = mended w from mend_safe w, safeFlaws_eq]
  refine ⟨unfit_of_dropped here, fun e after => ?_⟩
  obtain ⟨l, kept, -, rfl, made⟩ := exists_of_mendEdge? here after
  obtain ⟨source, target, -, -⟩ := link?_eq_some_iff.1 (mem_links.1 (keptLinks_subset w kept)).2
  have stays := mem_mended here after
  refine ⟨stays, made.source ▸ source, made.target ▸ target, fun way => ?_⟩
  exact (steady_mended w).acyclic e.source (.head' ⟨e, stays, rfl, rfl⟩ way)

/-- Three nodes with a way there and every way back. -/
def interwoven : Workflow :=
  { nodes := [{ id := "a", type := "input" }, { id := "b", type := "llm" },
      { id := "c", type := "output" }]
    edges := [{ source := "a", target := "b" }, { source := "b", target := "c" },
      { source := "c", target := "a" }, { source := "c", target := "b" },
      { source := "b", target := "a" }, { source := "A", target := "b" }] }

/-- The edge from `c` to `a` is the first to go, and a way from `a` to `c` is there in the end. -/
theorem dropped_or_stays_interwoven :
    mendEdge? (safeFlaws interwoven) ({ source := "c", target := "a" }, 2) = none ∧
      (mend interwoven (safeFlaws interwoven)).edges.map Edge.pair = [("a", "b"), ("b", "c")] ∧
      ReflTransGen (Graph.Step (mend interwoven (safeFlaws interwoven)).edges) "a" "c" := by
  have dropped : mendEdge? (safeFlaws interwoven) ({ source := "c", target := "a" }, 2) = none := by
    decide +kernel
  have pairs : (mend interwoven (safeFlaws interwoven)).edges.map Edge.pair =
      [("a", "b"), ("b", "c")] := by
    decide +kernel
  have source : endpoint? (distinctNodes interwoven.nodes) "c" = some "c" := by decide +kernel
  have target : endpoint? (distinctNodes interwoven.nodes) "a" = some "a" := by decide +kernel
  refine ⟨dropped, pairs, ?_⟩
  rcases (dropped_or_stays interwoven rfl).1 dropped with none | none | ⟨s, t, hs, ht, joined | way⟩
  · cases source.symm.trans none
  · cases target.symm.trans none
  · cases source.symm.trans hs
    cases target.symm.trans ht
    obtain ⟨e, mem, leaves, enters⟩ := joined
    have pair : e.pair ∈ [("a", "b"), ("b", "c")] := pairs ▸ List.mem_map_of_mem mem
    rw [Edge.pair, leaves, enters] at pair
    exact absurd pair (by decide)
  · cases source.symm.trans hs
    cases target.symm.trans ht
    exact way

end WorkflowRepair.Repair
