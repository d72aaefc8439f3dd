import WorkflowRepair.Proofs.Repair.Exits
import WorkflowRepair.Proofs.Repair.Mending

/-!
Mended edges stay as they are. Mending them once more finds no flaw but the handles that were
settled where no branch is left, by a node that shares its id with an earlier one that is no branch;
and these are settled again as they were.
-/

namespace WorkflowRepair

open Validation (hasKind)

namespace Edge

/-- The edge without a handle, unless it leaves a branch. -/
def unstray (nodes : List Node) (e : Edge) : Edge :=
  if e.hasHandle && !hasKind nodes e.source .branch then e.bare else e

variable {nodes : List Node} {e e' : Edge}

theorem bare_unstray (nodes : List Node) (e : Edge) : (e.unstray nodes).bare = e.bare := by
  unfold unstray
  split <;> rfl

theorem plain_unstray (h : (e.unstray nodes).hasHandle = true) :
    hasKind nodes e.source .branch = true := by
  unfold unstray at h
  split at h
  · cases h
  · next stays =>
    rw [h] at stays
    simpa using stays

theorem unstray_of_plain (h : e.hasHandle = true → hasKind nodes e.source .branch = true) :
    e.unstray nodes = e := by
  refine if_neg fun stray => ?_
  rw [Bool.and_eq_true] at stray
  have branch := h stray.1
  rw [branch] at stray
  exact absurd stray.2 (by decide)

theorem leaveBy_of_bare (h : e'.bare = e.bare) (exit : Exit) :
    e'.leaveBy exit = e.leaveBy exit := by
  have same : e'.bare.leaveBy exit = e.bare.leaveBy exit := by rw [h]
  exact same

theorem source_unstray (nodes : List Node) (e : Edge) : (e.unstray nodes).source = e.source :=
  source_eq_of_bare (bare_unstray nodes e)

/-- The exit that was taken from an edge is given back. -/
theorem leave_unstray_leave (h : e.hasHandle = true → hasKind nodes e.source .branch = true)
    (exit : Option Exit) : ((e.leave exit).unstray nodes).leave exit = e.leave exit := by
  cases exit with
  | none => exact unstray_of_plain h
  | some exit => exact leaveBy_of_bare (bare_unstray nodes (e.leaveBy exit)) exit

theorem exit?_of_not_hasHandle (h : e.hasHandle = false) : e.exit? = none := by
  cases found : e.exit? with
  | none => rfl
  | some exit =>
    have handle := Validation.exit?_eq_iff.1 found
    have some : e.hasHandle = true := by
      rw [Validation.hasHandle_iff, handle]
      cases exit <;> decide
    rw [some] at h
    cases h

end Edge

namespace Repair

/-! ### Edges that need no mending -/

/-- Edges whose ends are ids and no two of which have the same ends; they close no cycle and have an
id each. -/
structure Steady (nodes : List Node) (edges : List Edge) : Prop where
  source : ∀ e ∈ edges, endpoint? nodes e.source = some e.source
  target : ∀ e ∈ edges, endpoint? nodes e.target = some e.target
  once : (edges.map Edge.pair).Nodup
  acyclic : Graph.Acyclic edges
  named : ∀ e ∈ edges, e.id ≠ none

theorem acyclic_of_ends {α β : Type} [Arc α] [Arc β] {arcs : List α} {arcs' : List β}
    (h : ∀ a' ∈ arcs', ∃ a ∈ arcs, Arc.source a = Arc.source a' ∧ Arc.target a = Arc.target a')
    (acyclic : Graph.Acyclic arcs) : Graph.Acyclic arcs' := by
  have step : ∀ x y, Graph.Step arcs' x y → Graph.Step arcs x y := by
    rintro x y ⟨a', mem, rfl, rfl⟩
    obtain ⟨a, here, source, target⟩ := h a' mem
    exact ⟨a, here, source, target⟩
  intro x loop
  exact acyclic x (Relation.TransGen.mono step x x loop)

theorem exists_bare {edges edges' : List Edge}
    (bare : edges'.map Edge.bare = edges.map Edge.bare) {e' : Edge} (mem : e' ∈ edges') :
    ∃ e ∈ edges, e.bare = e'.bare := by
  have inside : e'.bare ∈ edges.map Edge.bare := bare ▸ List.mem_map_of_mem mem
  exact List.mem_map.1 inside

/-- Handles play no part in this. -/
theorem Steady.of_bare {nodes : List Node} {edges edges' : List Edge} (h : Steady nodes edges)
    (bare : edges'.map Edge.bare = edges.map Edge.bare) : Steady nodes edges' := by
  refine ⟨fun e' mem => ?_, fun e' mem => ?_, ?_, ?_, fun e' mem => ?_⟩
  · obtain ⟨e, here, same⟩ := exists_bare bare mem
    rw [← Edge.source_eq_of_bare same]
    exact h.source e here
  · obtain ⟨e, here, same⟩ := exists_bare bare mem
    rw [← Edge.target_eq_of_bare same]
    exact h.target e here
  · rw [Edge.map_pair_of_bare bare]
    exact h.once
  · refine acyclic_of_ends (fun e' mem => ?_) h.acyclic
    obtain ⟨e, here, same⟩ := exists_bare bare mem
    exact ⟨e, here, Edge.source_eq_of_bare same, Edge.target_eq_of_bare same⟩
  · obtain ⟨e, here, same⟩ := exists_bare bare mem
    have id : e.bare.id = e'.bare.id := by rw [same]
    have given : e.id = e'.id := id
    rw [← given]
    exact h.named e here

/-! ### Mended edges are steady -/

theorem exists_link_of_mem_mended {w : Workflow} {e : Edge} (h : e ∈ (mended w).edges) :
    ∃ l ∈ keptLinks w, MendedBy (distinctNodes w.nodes) l e := by
  rw [edges_mended] at h
  obtain ⟨⟨edge, index⟩, entry, mends⟩ := List.mem_filterMap.1 h
  obtain ⟨l, kept, -, -, made⟩ := exists_of_mendEdge? (List.mem_zipIdx_iff_getElem?.1 entry) mends
  exact ⟨l, kept, made⟩

theorem acyclic_keptLinks (w : Workflow) : Graph.Acyclic (keptLinks w) := by
  have known : ∀ l ∈ keptLinks w, Arc.source l ∈ (distinctNodes w.nodes).map Node.id := by
    intro l kept
    obtain ⟨source, -⟩ := link?_eq_some_iff.1 (mem_links.1 (keptLinks_subset w kept)).2
    exact mem_of_endpoint? source
  rw [← Graph.backEdge?_eq_none_iff known]
  exact backEdge?_cutCycles (Nat.le_refl _)

theorem nodup_keptLinks (w : Workflow) : ((keptLinks w).map Arc.ends).Nodup :=
  (fresh_firstLinks [] _).1.sublist ((cutCycles_sublist _ _ _).map Arc.ends)

/-- Mended edges come from different places, so their links differ, and with these their ends. -/
theorem nodup_pairs_mended (w : Workflow) : ((mended w).edges.map Edge.pair).Nodup := by
  rw [edges_mended, List.Nodup, List.pairwise_map, List.pairwise_filterMap]
  refine (places_apart w.edges).imp_of_mem fun {a b} here there apart e mends e' mends' same => ?_
  obtain ⟨l, kept, index, -, made⟩ :=
    exists_of_mendEdge? (List.mem_zipIdx_iff_getElem?.1 here) mends
  obtain ⟨l', kept', index', -, made'⟩ :=
    exists_of_mendEdge? (List.mem_zipIdx_iff_getElem?.1 there) mends'
  injection same with source target
  have ends : Arc.ends l = Arc.ends l' :=
    Prod.ext (made.source.symm.trans (source.trans made'.source))
      (made.target.symm.trans (target.trans made'.target))
  have one : l = l' := List.inj_on_of_nodup_map (nodup_keptLinks w) kept kept' ends
  rw [one, index'] at index
  exact apart index.symm

theorem steady_mended (w : Workflow) : Steady (distinctNodes w.nodes) (mended w).edges := by
  have linked : ∀ e ∈ (mended w).edges, ∃ l ∈ keptLinks w,
      MendedBy (distinctNodes w.nodes) l e ∧
        endpoint? (distinctNodes w.nodes) l.edge.source = some l.source ∧
        endpoint? (distinctNodes w.nodes) l.edge.target = some l.target := by
    intro e mem
    obtain ⟨l, kept, made⟩ := exists_link_of_mem_mended mem
    obtain ⟨source, target, -⟩ := link?_eq_some_iff.1 (mem_links.1 (keptLinks_subset w kept)).2
    exact ⟨l, kept, made, source, target⟩
  refine ⟨fun e mem => ?_, fun e mem => ?_, nodup_pairs_mended w, ?_, fun e mem => ?_⟩
  · obtain ⟨l, -, made, source, -⟩ := linked e mem
    rw [made.source]
    exact endpoint?_endpoint? source
  · obtain ⟨l, -, made, -, target⟩ := linked e mem
    rw [made.target]
    exact endpoint?_endpoint? target
  · refine acyclic_of_ends (fun e mem => ?_) (acyclic_keptLinks w)
    obtain ⟨l, kept, made⟩ := exists_link_of_mem_mended mem
    exact ⟨l, kept, made.source.symm, made.target.symm⟩
  · obtain ⟨l, -, made⟩ := exists_link_of_mem_mended mem
    exact made.named

theorem plain_mended {w : Workflow} {e : Edge} (h : e ∈ (mended w).edges)
    (handle : e.hasHandle = true) : hasKind (distinctNodes w.nodes) e.source .branch = true := by
  obtain ⟨l, -, made⟩ := exists_link_of_mem_mended h
  rw [made.source]
  exact made.plain handle

/-! ### Mending steady edges -/

theorem firstLinks_eq_self {seen : List (String × String)} {ls : List Link}
    (h : Validation.Fresh Arc.ends seen ls) : firstLinks seen ls = ls := by
  induction ls generalizing seen with
  | nil => rfl
  | cons l rest ih =>
    obtain ⟨new, fresh⟩ := Validation.fresh_cons.1 h
    rw [firstLinks, if_neg (mt List.contains_iff_mem.1 new), ih fresh]

theorem repeatedLinks_eq_nil {seen : List (String × String)} {ls : List Link}
    (h : Validation.Fresh Arc.ends seen ls) : repeatedLinks seen ls = [] := by
  induction ls generalizing seen with
  | nil => rfl
  | cons l rest ih =>
    obtain ⟨new, fresh⟩ := Validation.fresh_cons.1 h
    rw [repeatedLinks, if_neg (mt List.contains_iff_mem.1 new), ih fresh]

theorem withoutCycles_of_none {order : List String} {ls : List Link}
    (h : Graph.backEdge? order ls = none) : withoutCycles order ls = (ls, []) := by
  unfold withoutCycles
  cases ls.length with
  | zero => rfl
  | succ rounds => rw [cutCycles, h]

theorem idFlaws_eq_nil {used : List String} {ls : List Link} (h : ∀ l ∈ ls, l.edge.id ≠ none) :
    idFlaws used ls = [] := by
  induction ls with
  | nil => rfl
  | cons l rest ih =>
    obtain ⟨here, later⟩ := List.forall_mem_cons.1 h
    obtain ⟨id, given⟩ := Option.ne_none_iff_exists'.1 here
    rw [idFlaws, given]
    exact ih later

section Steady

variable {w : Workflow} (steady : Steady (distinctNodes w.nodes) w.edges)

include steady

/-- Every edge is linked as it is. -/
theorem link?_of_steady {entry : Edge × Nat} (mem : entry ∈ w.edges.zipIdx) :
    link? (distinctNodes w.nodes) entry =
      some ⟨entry.2, entry.1.source, entry.1.target, entry.1⟩ := by
  have here := List.fst_mem_of_mem_zipIdx mem
  exact link?_eq_some_iff.2 ⟨steady.source _ here, steady.target _ here, rfl, rfl⟩

theorem links_of_steady : links (distinctNodes w.nodes) w.edges =
    w.edges.zipIdx.map fun entry => ⟨entry.2, entry.1.source, entry.1.target, entry.1⟩ := by
  rw [links, ← List.filterMap_eq_map]
  exact List.filterMap_congr fun entry mem => link?_of_steady steady mem

theorem mem_edges_of_mem_links {l : Link} (h : l ∈ links (distinctNodes w.nodes) w.edges) :
    l.edge ∈ w.edges ∧ l.source = l.edge.source ∧ l.target = l.edge.target := by
  rw [links_of_steady steady] at h
  obtain ⟨entry, mem, rfl⟩ := List.mem_map.1 h
  exact ⟨List.fst_mem_of_mem_zipIdx mem, rfl, rfl⟩

theorem map_ends_links :
    (links (distinctNodes w.nodes) w.edges).map Arc.ends = w.edges.map Edge.pair := by
  rw [links_of_steady steady, List.map_map]
  have entries : w.edges.map Edge.pair = (w.edges.zipIdx.map Prod.fst).map Edge.pair := by
    rw [List.zipIdx_map_fst]
  rw [entries, List.map_map]
  rfl

theorem fresh_links : Validation.Fresh Arc.ends [] (links (distinctNodes w.nodes) w.edges) := by
  rw [Validation.fresh_nil_iff, map_ends_links steady]
  exact steady.once

theorem withoutCycles_of_steady :
    withoutCycles ((distinctNodes w.nodes).map Node.id) (links (distinctNodes w.nodes) w.edges) =
      (links (distinctNodes w.nodes) w.edges, []) := by
  refine withoutCycles_of_none ((Graph.backEdge?_eq_none_iff fun l mem => ?_).2 ?_)
  · obtain ⟨edge, source, -⟩ := mem_edges_of_mem_links steady mem
    show l.source ∈ (distinctNodes w.nodes).map Node.id
    rw [source]
    exact mem_of_endpoint? (steady.source _ edge)
  · refine acyclic_of_ends (fun l mem => ?_) steady.acyclic
    obtain ⟨edge, source, target⟩ := mem_edges_of_mem_links steady mem
    exact ⟨l.edge, edge, source.symm, target.symm⟩

theorem keptLinks_of_steady : keptLinks w = links (distinctNodes w.nodes) w.edges := by
  simp only [keptLinks, firstLinks_eq_self (fresh_links steady), withoutCycles_of_steady steady]

theorem cutLinks_of_steady : cutLinks w = [] := by
  simp only [cutLinks, firstLinks_eq_self (fresh_links steady), withoutCycles_of_steady steady]

/-- The only flaws are handles of edges that leave no branch. -/
theorem edgeFlaws_of_steady : edgeFlaws w =
    (strayLinks (distinctNodes w.nodes) (links (distinctNodes w.nodes) w.edges)).map
      fun l => l.flaw .strayHandle := by
  have ends : w.edges.zipIdx.flatMap (endFlaws (distinctNodes w.nodes)) = [] := by
    refine List.flatMap_eq_nil_iff.2 fun entry mem => ?_
    simp only [endFlaws, link?_of_steady steady mem, if_true, List.append_nil]
  have named : ∀ l ∈ links (distinctNodes w.nodes) w.edges, l.edge.id ≠ none := by
    intro l mem
    exact steady.named _ (mem_edges_of_mem_links steady mem).1
  simp only [edgeFlaws, ends, idFlaws_eq_nil named, repeatedLinks_eq_nil (fresh_links steady),
    cutLinks_of_steady steady, keptLinks_of_steady steady, List.map_nil, List.nil_append,
    List.append_nil]

theorem stray_of_mem_flawsAt {index : Nat} {flaw : EdgeFlaw} (h : flaw ∈ flawsAt w index) :
    flaw.kind = .strayHandle := by
  have known := (mem_flawsAt.1 h).1
  rw [edgeFlaws_of_steady steady] at known
  obtain ⟨l, -, rfl⟩ := List.mem_map.1 known
  rfl

theorem flawsAt_eq_nil_iff {entry : Edge × Nat} (mem : entry ∈ w.edges.zipIdx) :
    flawsAt w entry.2 = [] ↔
      ¬ (entry.1.hasHandle && !hasKind (distinctNodes w.nodes) entry.1.source .branch) = true := by
  rw [flawsAt, edgeFlaws_of_steady steady, List.filter_eq_nil_iff]
  constructor
  · intro clear stray
    have link : ⟨entry.2, entry.1.source, entry.1.target, entry.1⟩ ∈
        links (distinctNodes w.nodes) w.edges :=
      List.mem_filterMap.2 ⟨entry, mem, link?_of_steady steady mem⟩
    have listed : ⟨entry.2, entry.1.source, entry.1.target, entry.1⟩ ∈
        strayLinks (distinctNodes w.nodes) (links (distinctNodes w.nodes) w.edges) :=
      List.mem_filter.2 ⟨link, stray⟩
    exact clear _ (List.mem_map_of_mem listed) (beq_self_eq_true _)
  · intro clear flaw found index
    obtain ⟨l, listed, rfl⟩ := List.mem_map.1 found
    obtain ⟨link, stray⟩ := List.mem_filter.1 listed
    have place : l.index = entry.2 := beq_iff_eq.1 index
    have edge : l.edge = entry.1 := by
      have there := (mem_links.1 link).1
      rw [place, List.mem_zipIdx_iff_getElem?.1 mem] at there
      exact (Option.some.inj there).symm
    obtain ⟨-, source, -⟩ := mem_edges_of_mem_links steady link
    rw [source, edge] at stray
    exact clear stray

end Steady

theorem foldl_amend_stray {flaws : List EdgeFlaw} {e : Edge}
    (stray : ∀ flaw ∈ flaws, flaw.kind = .strayHandle) :
    flaws.foldl amend e = if flaws = [] then e else e.bare := by
  induction flaws generalizing e with
  | nil => rfl
  | cons flaw rest ih =>
    obtain ⟨here, later⟩ := List.forall_mem_cons.1 stray
    have first : amend e flaw = e.bare := by simp only [amend, here, Edge.bare]
    rw [List.foldl_cons, first, ih later, if_neg (List.cons_ne_nil _ _)]
    split <;> rfl

theorem mendEdge?_of_steady {w : Workflow} (steady : Steady (distinctNodes w.nodes) w.edges)
    {entry : Edge × Nat} (mem : entry ∈ w.edges.zipIdx) :
    mendEdge? (edgeFlaws w) entry = some (entry.1.unstray (distinctNodes w.nodes)) := by
  have stray : ∀ flaw ∈ flawsAt w entry.2, flaw.kind = .strayHandle :=
    fun flaw => stray_of_mem_flawsAt steady
  have stays : (flawsAt w entry.2).any (·.kind.removes) = false := by
    rw [List.any_eq_false]
    intro flaw found
    rw [stray flaw found]
    decide
  show (if (flawsAt w entry.2).any (·.kind.removes) then none
    else some ((flawsAt w entry.2).foldl amend entry.1)) = _
  rw [stays, foldl_amend_stray stray, Edge.unstray]
  simp only [flawsAt_eq_nil_iff steady mem, Bool.false_eq_true, if_false, ite_not]

/-- Mending steady edges takes handles from those that leave no branch, and does no more. -/
theorem edges_mended_of_steady {w : Workflow} (steady : Steady (distinctNodes w.nodes) w.edges) :
    (mended w).edges = w.edges.map (Edge.unstray (distinctNodes w.nodes)) := by
  rw [edges_mended, List.filterMap_congr fun entry mem => mendEdge?_of_steady steady mem]
  have entries : w.edges.map (Edge.unstray (distinctNodes w.nodes)) =
      (w.edges.zipIdx.map Prod.fst).map (Edge.unstray (distinctNodes w.nodes)) := by
    rw [List.zipIdx_map_fst]
  rw [entries, List.map_map, ← List.filterMap_eq_map]
  rfl

/-! ### Settling after that -/

theorem leadsHigher_of_bare (nodes : List Node) {e e' d d' : Edge} (h : e'.bare = e.bare)
    (h' : d'.bare = d.bare) : leadsHigher nodes e' d' = leadsHigher nodes e d := by
  have ends : e'.target = e.target := Edge.target_eq_of_bare h
  have ends' : d'.target = d.target := Edge.target_eq_of_bare h'
  have id : e'.bare.id = e.bare.id := by rw [h]
  have id' : d'.bare.id = d.bare.id := by rw [h']
  have first : comesFirst e' d' = comesFirst e d := by
    unfold comesFirst
    rw [ends, ends']
    change e'.id = e.id at id
    change d'.id = d.id at id'
    rw [id, id']
  rw [leadsHigher, leadsHigher, ends, ends', first]

/-- Edges without exits get theirs by what else they are. -/
theorem assignExits_of_bare (nodes : List Node) {e e' d d' : Edge} (h : e'.bare = e.bare)
    (h' : d'.bare = d.bare) (one : e.exit? = none) (two : d.exit? = none) (one' : e'.exit? = none)
    (two' : d'.exit? = none) : assignExits nodes e' d' = assignExits nodes e d := by
  simp only [assignExits, one, two, one', two', assignExits.byPosition,
    leadsHigher_of_bare nodes h' h]

theorem chosen?_of_exitless {nodes : List Node} {ids : List String} {edges edges' : List Edge}
    {b : String} (bare : edges'.map Edge.bare = edges.map Edge.bare)
    (exitless : ∀ e ∈ edges, e.source = b → e.exit? = none)
    (exitless' : ∀ e ∈ edges', e.source = b → e.exit? = none) :
    chosen? nodes ids b edges' = chosen? nodes ids b edges := by
  have same (p : Nat) : edges'[p]?.map Edge.bare = edges[p]?.map Edge.bare := by
    rw [← List.getElem?_map, bare, List.getElem?_map]
  have counterpart {p : Nat} {e : Edge} (here : edges[p]? = some e) :
      ∃ e', edges'[p]? = some e' ∧ e'.bare = e.bare := by
    have there := same p
    rw [here, Option.map_some] at there
    exact Option.map_eq_some_iff.1 there
  cases places : exitPlaces ids edges b with
  | nil => simp only [chosen?, exitPlaces_congr ids bare, places]
  | cons i rest =>
    rcases rest with - | ⟨j, - | ⟨k, more⟩⟩
    · simp only [chosen?, exitPlaces_congr ids bare, places]
    · have inside : i ∈ exitPlaces ids edges b ∧ j ∈ exitPlaces ids edges b := by simp [places]
      obtain ⟨first, here, own, -⟩ := mem_exitPlaces.1 inside.1
      obtain ⟨second, here₂, own₂, -⟩ := mem_exitPlaces.1 inside.2
      obtain ⟨first', there, alike⟩ := counterpart here
      obtain ⟨second', there₂, alike₂⟩ := counterpart here₂
      have places' := (exitPlaces_congr ids bare b).trans places
      rw [chosen?_pair places here here₂, chosen?_pair places' there there₂]
      rw [assignExits_of_bare nodes alike alike₂]
      · exact exitless first (List.mem_of_getElem? here) own
      · exact exitless second (List.mem_of_getElem? here₂) own₂
      · exact exitless' first' (List.mem_of_getElem? there)
          ((Edge.source_eq_of_bare alike).trans own)
      · exact exitless' second' (List.mem_of_getElem? there₂)
          ((Edge.source_eq_of_bare alike₂).trans own₂)
    · simp only [chosen?, exitPlaces_congr ids bare, places]

section Settling

variable {nodes : List Node} {ids bs : List String} {kinds : List Node} {edges : List Edge}
  (plain : ∀ e ∈ edges, e.hasHandle = true → hasKind kinds e.source .branch = true)

include plain

/-- What a branch chooses after the handles were taken from edges that leave none. A node of another
kind comes first where the id of a branch is used twice, and then the edges get their handles back
by the height of their targets, as they got them at first. -/
theorem exitAt?_unstray {b : String} (own : b ∈ bs) (p : Nat) :
    exitAt? nodes ids b ((settleBranches nodes ids bs edges).1.map (Edge.unstray kinds)) p =
      if hasKind kinds b .branch = true then none else exitAt? nodes ids b edges p := by
  have settled : ((settleBranches nodes ids bs edges).1.map (Edge.unstray kinds)).map Edge.bare =
      (settleBranches nodes ids bs edges).1.map Edge.bare := by
    rw [List.map_map]
    exact List.map_congr_left fun e _ => Edge.bare_unstray kinds e
  by_cases branch : hasKind kinds b .branch = true
  · rw [if_pos branch]
    refine exitAt?_of_chosen?_none ?_ p
    rw [chosen?_congr settled]
    · exact chosen?_settleBranches (.inl own)
    · intro q mem
      obtain ⟨d, there, source, -⟩ := mem_exitPlaces.1 mem
      rw [List.getElem?_map, there, Option.map_some, Edge.unstray_of_plain fun _ => source ▸ branch]
  · rw [if_neg branch, exitAt?, exitAt?]
    rw [chosen?_of_exitless (settled.trans (map_bare_settleBranches nodes ids bs edges))]
    · intro d mem source
      refine Edge.exit?_of_not_hasHandle (Bool.eq_false_iff.2 fun handle => branch ?_)
      exact source ▸ plain d mem handle
    · intro d' mem source
      obtain ⟨d, -, rfl⟩ := List.mem_map.1 mem
      refine Edge.exit?_of_not_hasHandle (Bool.eq_false_iff.2 fun handle => branch ?_)
      have same : d.source = b := by
        rw [← source]
        exact (Edge.source_eq_of_bare (Edge.bare_unstray kinds d)).symm
      exact same ▸ Edge.plain_unstray handle

/-- The exits that were taken are settled again as they were. -/
theorem settleBranches_unstray :
    (settleBranches nodes ids bs
        ((settleBranches nodes ids bs edges).1.map (Edge.unstray kinds))).1 =
      (settleBranches nodes ids bs edges).1 := by
  refine List.ext_getElem? fun p => ?_
  cases here : edges[p]? with
  | none =>
    have beyond (es : List Edge) (same : es.map Edge.bare = edges.map Edge.bare) :
        es[p]? = none := by
      have there : es[p]?.map Edge.bare = none := by
        rw [← List.getElem?_map, same, List.getElem?_map, here]
        rfl
      exact Option.map_eq_none_iff.1 there
    have bare : ((settleBranches nodes ids bs edges).1.map (Edge.unstray kinds)).map Edge.bare =
        edges.map Edge.bare := by
      rw [List.map_map, ← map_bare_settleBranches nodes ids bs edges]
      exact List.map_congr_left fun e _ => Edge.bare_unstray kinds e
    rw [beyond _ (map_bare_settleBranches nodes ids bs edges),
      beyond _ ((map_bare_settleBranches nodes ids bs _).trans bare)]
  | some e =>
    have handle := plain e (List.mem_of_getElem? here)
    have once : (settleBranches nodes ids bs edges).1[p]? = some (e.leave
        (if e.source ∈ bs then exitAt? nodes ids e.source edges p else none)) :=
      getElem?_settleBranches here
    have taken : ((settleBranches nodes ids bs edges).1.map (Edge.unstray kinds))[p]? =
        some ((e.leave (if e.source ∈ bs then exitAt? nodes ids e.source edges p
          else none)).unstray kinds) := by
      rw [List.getElem?_map, once]
      rfl
    rw [getElem?_settleBranches taken, once, Edge.source_unstray, Edge.source_leave]
    refine congrArg some ?_
    by_cases own : e.source ∈ bs
    · rw [if_pos own, if_pos own, exitAt?_unstray plain own]
      by_cases branch : hasKind kinds e.source .branch = true
      · rw [if_pos branch, Edge.unstray_of_plain fun _ => by rw [Edge.source_leave]; exact branch]
        rfl
      · rw [if_neg branch]
        exact Edge.leave_unstray_leave handle _
    · rw [if_neg own, if_neg own]
      exact Edge.leave_unstray_leave handle none

end Settling

/-- The edges of a workflow with the exits of its branches settled. -/
def settled (nodes : List Node) (edges : List Edge) : List Edge := (settleExits ⟨nodes, edges⟩).1

theorem settled_settled (nodes : List Node) (edges : List Edge) :
    settled nodes (settled nodes edges) = settled nodes edges :=
  settleBranches_again _ _ _ _

/-- Edges that were mended and settled stay as they are when they are mended and settled again. -/
theorem settled_mended_settled_mended (nodes : List Node) (edges : List Edge) :
    settled nodes (mended ⟨nodes, settled nodes (mended ⟨nodes, edges⟩).edges⟩).edges =
      settled nodes (mended ⟨nodes, edges⟩).edges := by
  have steady : Steady (distinctNodes nodes) (mended ⟨nodes, edges⟩).edges :=
    steady_mended ⟨nodes, edges⟩
  have bare : (settled nodes (mended ⟨nodes, edges⟩).edges).map Edge.bare =
      (mended ⟨nodes, edges⟩).edges.map Edge.bare := map_bare_settleExits _
  have steady' : Steady (distinctNodes nodes) (settled nodes (mended ⟨nodes, edges⟩).edges) :=
    steady.of_bare bare
  have again : (mended ⟨nodes, settled nodes (mended ⟨nodes, edges⟩).edges⟩).edges =
      (settled nodes (mended ⟨nodes, edges⟩).edges).map (Edge.unstray (distinctNodes nodes)) :=
    edges_mended_of_steady steady'
  rw [again]
  exact settleBranches_unstray fun e mem => plain_mended mem

end Repair

end WorkflowRepair
