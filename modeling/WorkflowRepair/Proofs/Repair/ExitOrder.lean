import Mathlib.Data.List.Permutation
import WorkflowRepair.Proofs.Number.Order
import WorkflowRepair.Proofs.Repair.BothExits

/-!
The order in which nodes and edges are listed makes no difference to the exits of branches, where no
id and no pair of ends repeats and every height is a number. The exit of an edge is told without its
place, by the edges that leave its branch; and of two edges to different nodes one leads higher
than the other, so choosing between them the other way round comes to the same.
-/

namespace WorkflowRepair.Repair

/-! ### Which edge leads higher -/

/-- Every node that has a place has a number for its height. -/
def Level (nodes : List Node) : Prop :=
  ∀ n ∈ nodes, ∀ place ∈ n.position, place.y ≠ .double .nan

instance (nodes : List Node) : Decidable (Level nodes) :=
  inferInstanceAs (Decidable (∀ n ∈ nodes, ∀ place ∈ n.position, place.y ≠ .double .nan))

variable {nodes : List Node} {a b : Edge}

theorem height?_ne_nan (level : Level nodes) {id : String} {y : Number}
    (h : height? nodes id = some y) : y ≠ .double .nan := by
  unfold height? at h
  split at h
  · cases h
  · obtain ⟨n, found, placed⟩ := Option.bind_eq_some_iff.1 h
    obtain ⟨place, here, rfl⟩ := Option.map_eq_some_iff.1 placed
    exact level n (List.mem_of_find?_eq_some found) place here

theorem comesFirst_swap (apart : a.target ≠ b.target) : comesFirst b a = !comesFirst a b := by
  rw [comesFirst, comesFirst, if_neg apart, if_neg apart.symm, ← decide_not]
  refine decide_eq_decide.2 ?_
  rw [not_lt]
  exact (lt_iff_le_and_ne.trans (and_iff_left apart.symm))

theorem leadsHigher_swap (level : Level nodes) (apart : a.target ≠ b.target) :
    leadsHigher nodes b a = !leadsHigher nodes a b := by
  unfold leadsHigher
  cases first : height? nodes a.target with
  | none =>
    cases height? nodes b.target with
    | none => exact comesFirst_swap apart
    | some y => rfl
  | some x =>
    cases second : height? nodes b.target with
    | none => rfl
    | some y =>
      have hx : x.extended ≠ .undefined :=
        mt Number.extended_eq_undefined_iff.1 (height?_ne_nan level first)
      have hy : y.extended ≠ .undefined :=
        mt Number.extended_eq_undefined_iff.1 (height?_ne_nan level second)
      have same : sameHeight x y = x.extended.same y.extended := by
        simp [sameHeight, Number.same, hx]
      have same' : sameHeight y x = x.extended.same y.extended := by
        simp [sameHeight, Number.same, hx, Number.Extended.same_comm x.extended y.extended]
      simp only [same, same']
      split
      · exact comesFirst_swap apart
      · next other => exact Number.Extended.lt_swap hx hy (Bool.eq_false_iff.2 other)

/-- The exits of two edges to different nodes, chosen the other way round. -/
theorem assignExits_swap (level : Level nodes) (apart : a.target ≠ b.target) :
    assignExits nodes b a =
      (assignExits nodes a b).map fun (reason, first, second) => (reason, second, first) := by
  have position : assignExits.byPosition nodes b a =
      (assignExits.byPosition nodes a b).map fun (reason, first, second) =>
        (reason, second, first) := by
    rw [assignExits.byPosition, assignExits.byPosition, leadsHigher_swap level apart]
    cases leadsHigher nodes a b <;> rfl
  unfold assignExits
  cases a.exit? with
  | none =>
    cases b.exit? with
    | none => exact position
    | some y => rfl
  | some x =>
    cases b.exit? with
    | none => rfl
    | some y =>
      by_cases same : x = y
      · simp only [if_pos same, if_pos same.symm]
        exact position
      · simp only [if_neg same, if_neg (Ne.symm same)]
        rfl

/-! ### The exit of an edge without its place -/

/-- The edges from an id to nodes with the given ids. -/
def edgesOut (ids : List String) (edges : List Edge) (id : String) : List Edge :=
  edges.filter fun e => e.source = id ∧ ids.contains e.target

/-- The exit that an edge gets as one of the edges of its branch. -/
def ownExit? (nodes : List Node) (out : List Edge) (e : Edge) : Option Exit :=
  match out with
  | [first, second] =>
    if e = first then (assignExits nodes first second).map fun exits => exits.2.1
    else if e = second then (assignExits nodes first second).map fun exits => exits.2.2
    else none
  | _ => none

theorem map_exitPlaces (ids : List String) (edges : List Edge) (id : String) :
    (exitPlaces ids edges id).map (edges[·]?) = (edgesOut ids edges id).map some := by
  have entries : edges.zipIdx.map Prod.fst = edges := List.zipIdx_map_fst 0 edges
  have out : edgesOut ids edges id = (edges.zipIdx.filter fun entry =>
      entry.1.source = id ∧ ids.contains entry.1.target).map Prod.fst := by
    conv_lhs => rw [edgesOut, ← entries, List.filter_map]
    rfl
  rw [exitPlaces_eq, out, List.map_map, List.map_map]
  refine List.map_congr_left fun entry mem => ?_
  exact List.mem_zipIdx_iff_getElem?.1 (List.mem_filter.1 mem).1

theorem exitPlaces_of_pair {ids : List String} {edges : List Edge} {id : String}
    {first second : Edge} (out : edgesOut ids edges id = [first, second]) :
    ∃ i j, exitPlaces ids edges id = [i, j] ∧ edges[i]? = some first ∧ edges[j]? = some second := by
  have places := map_exitPlaces ids edges id
  rw [out] at places
  obtain ⟨i, rest, start, here, tail⟩ := List.map_eq_cons_iff.1 places
  obtain ⟨j, last, rfl, there, nil⟩ := List.map_eq_cons_iff.1 tail
  exact ⟨i, j, by rw [start, List.map_eq_nil_iff.1 nil], here, there⟩

/-- Where no edge is listed twice, the exit of an edge does not depend on its place. -/
theorem exitAt?_eq {ids : List String} {edges : List Edge} {id : String} {p : Nat} {e : Edge}
    (distinct : edges.Nodup) (here : edges[p]? = some e) :
    exitAt? nodes ids id edges p = ownExit? nodes (edgesOut ids edges id) e := by
  have inside : p < edges.length := (List.getElem?_eq_some_iff.1 here).1
  have at_iff {i : Nat} {f : Edge} (there : edges[i]? = some f) : p = i ↔ e = f := by
    rw [← List.getElem?_inj inside distinct, here, there, Option.some_inj]
  cases chosen : chosen? nodes ids id edges with
  | none =>
    rw [exitAt?_of_chosen?_none chosen]
    unfold ownExit?
    split
    · next first second out =>
      obtain ⟨i, j, places, one, other⟩ := exitPlaces_of_pair out
      rw [chosen?_pair places one other, Option.map_eq_none_iff] at chosen
      simp [chosen]
    · rfl
  | some pair =>
    obtain ⟨⟨i, a⟩, ⟨j, c⟩⟩ := pair
    obtain ⟨places, first, second, reason, one, other, assigned⟩ := chosen?_eq_some chosen
    have out : edgesOut ids edges id = [first, second] := by
      have given := map_exitPlaces ids edges id
      rw [places, List.map_cons, List.map_singleton, one, other] at given
      exact List.map_injective_iff.2 (Option.some_injective Edge) given.symm
    simp only [exitAt?, chosen, ownExit?, out, assigned, at_iff one, at_iff other, Option.map_some]

/-- The exit of an edge of a workflow, unless it keeps what it has. -/
def exitOf? (w : Workflow) (e : Edge) : Option Exit :=
  if e.source ∈ branchIds w then ownExit? w.nodes (edgesOut w.nodeIds w.edges e.source) e else none

theorem settleExits_eq_map {w : Workflow} (distinct : w.edges.Nodup) :
    (settleExits w).1 = w.edges.map fun e => e.leave (exitOf? w e) := by
  refine List.ext_getElem? fun p => ?_
  rw [List.getElem?_map]
  cases here : w.edges[p]? with
  | none =>
    have bare := congrArg (·[p]?) (map_bare_settleExits w)
    simpa [here] using bare
  | some e =>
    rw [getElem?_settleExits here, exitAt?_eq distinct here]
    rfl

/-! ### Lists in another order -/

theorem ownExit?_listed {out out' : List Edge} (level : Level nodes) (linked : out'.Perm out)
    (apart : (out.map Edge.target).Nodup) (e : Edge) :
    ownExit? nodes out' e = ownExit? nodes out e := by
  by_cases pair : ∃ first second, out = [first, second]
  · obtain ⟨first, second, rfl⟩ := pair
    have other : first.target ≠ second.target := by simpa using apart
    rcases List.perm_pair.1 linked with rfl | rfl
    · rfl
    · have ne : first ≠ second := fun same => other (congrArg Edge.target same)
      simp only [ownExit?, assignExits_swap level other, Option.map_map]
      by_cases one : e = first
      · rw [if_neg (one ▸ ne), if_pos one, if_pos one]
        rfl
      · rw [if_neg one, if_neg one]
        rfl
  · have none {exits : List Edge} (more : exits.length ≠ 2) : ownExit? nodes exits e = none := by
      unfold ownExit?
      split
      · exact absurd rfl more
      · rfl
    have more : out.length ≠ 2 := mt List.length_eq_two.1 pair
    rw [none more, none (linked.length_eq ▸ more)]

section Listed

variable {nodes' : List Node} (listed : nodes'.Perm nodes)
  (distinct : ((nodes.map Node.id).filter (· ≠ "")).Nodup)

include listed distinct

theorem height?_listed (id : String) : height? nodes' id = height? nodes id := by
  unfold height?
  by_cases empty : id = ""
  · rw [if_pos empty, if_pos empty]
  · have found : (nodes'.find? fun n => n.id == id && n.position.isSome) =
        nodes.find? fun n => n.id == id && n.position.isSome := by
      refine find?_of_perm listed fun n mem n' mem' own own' => ?_
      simp only [Bool.and_eq_true, beq_iff_eq] at own own'
      exact Validation.eq_of_same_id distinct mem mem' (own.1 ▸ empty) (own.1.trans own'.1.symm)
    rw [if_neg empty, if_neg empty, found]

theorem assignExits_listed (first second : Edge) :
    assignExits nodes' first second = assignExits nodes first second := by
  have higher (a b : Edge) : leadsHigher nodes' a b = leadsHigher nodes a b := by
    rw [leadsHigher, leadsHigher, height?_listed listed distinct, height?_listed listed distinct]
  simp only [assignExits, assignExits.byPosition, higher]

end Listed

variable {w w' : Workflow}

theorem nodup_edgesOut (simple : (w.edges.map Edge.pair).Nodup) (ids : List String) (id : String) :
    ((edgesOut ids w.edges id).map Edge.target).Nodup := by
  have pairs : (edgesOut ids w.edges id).map Edge.pair =
      ((edgesOut ids w.edges id).map Edge.target).map (id, ·) := by
    rw [List.map_map]
    refine List.map_congr_left fun e mem => ?_
    have own : e.source = id := (of_decide_eq_true (List.mem_filter.1 mem).2).1
    exact Prod.ext own rfl
  have distinct : ((edgesOut ids w.edges id).map Edge.pair).Nodup :=
    simple.sublist (List.filter_sublist.map Edge.pair)
  exact List.Nodup.of_map (id, ·) (pairs ▸ distinct)

theorem exitOf?_listed (listed : w'.nodes.Perm w.nodes) (linked : w'.edges.Perm w.edges)
    (distinct : w.nodeIds.Nodup) (simple : (w.edges.map Edge.pair).Nodup)
    (level : Level w.nodes) (e : Edge) : exitOf? w' e = exitOf? w e := by
  have branch : e.source ∈ branchIds w' ↔ e.source ∈ branchIds w := by
    simp only [mem_branchIds, listed.mem_iff]
  have known (id : String) : w'.nodeIds.contains id = w.nodeIds.contains id :=
    ((listed.map Node.id).filter _).contains_eq
  have out :
      (edgesOut w'.nodeIds w'.edges e.source).Perm (edgesOut w.nodeIds w.edges e.source) := by
    simp only [edgesOut, known]
    exact linked.filter _
  have same : ownExit? w'.nodes = ownExit? w.nodes := by
    funext out e
    simp only [ownExit?, assignExits_listed listed distinct]
  rw [exitOf?, exitOf?, same, ownExit?_listed level out (nodup_edgesOut simple _ _)]
  exact if_congr branch rfl rfl

/-- Where no id and no pair of ends repeats and every height is a number, the edges come to the same
however nodes and edges are listed; so the edges with the same ends leave by the same exit. -/
theorem settleExits_listed (listed : w'.nodes.Perm w.nodes) (linked : w'.edges.Perm w.edges)
    (distinct : w.nodeIds.Nodup) (simple : (w.edges.map Edge.pair).Nodup)
    (level : Level w.nodes) :
    (settleExits w').1.Perm (settleExits w).1 ∧
      ∀ e ∈ (settleExits w).1, ∀ e' ∈ (settleExits w').1, e'.pair = e.pair →
        e'.sourceHandle = e.sourceHandle := by
  have once : w.edges.Nodup := simple.of_map
  have perm : (settleExits w').1.Perm (settleExits w).1 := by
    rw [settleExits_eq_map once, settleExits_eq_map (linked.nodup_iff.2 once)]
    simp only [exitOf?_listed listed linked distinct simple level]
    exact linked.map _
  have pairs : ((settleExits w).1.map Edge.pair).Nodup := by
    rwa [Edge.map_pair_of_bare (map_bare_settleExits w)]
  refine ⟨perm, fun e mem e' mem' same => ?_⟩
  rw [List.inj_on_of_nodup_map pairs (perm.mem_iff.1 mem') mem same]

/-- A branch over an integer and a fractional height, one over nodes without a place, and one with
the same good handle twice. -/
def forked : Workflow :=
  { nodes := [{ id := "b", type := "branch" }, { id := "c", type := "Branch" },
      { id := "d", type := "branch" },
      { id := "x", position := some ⟨.int 0, .int 3⟩ },
      { id := "y", position := some ⟨.int 0, .double (.finite false 5 (-1))⟩ },
      { id := "p" }, { id := "q" }]
    edges := [{ source := "b", target := "x" }, { source := "c", target := "q" },
      { source := "d", target := "q", sourceHandle := .str "false" },
      { source := "b", target := "y", sourceHandle := .str "maybe" },
      { source := "c", target := "p" },
      { source := "d", target := "y", sourceHandle := .str "false" }] }

/-- Listed from the other end, the higher target still gets the exit for true, and of two that have
no place the first by id. -/
theorem settleExits_listed_forked :
    forked.nodeIds.Nodup ∧ (forked.edges.map Edge.pair).Nodup ∧ Level forked.nodes ∧
      (settleExits ⟨forked.nodes.reverse, forked.edges.reverse⟩).1.Perm (settleExits forked).1 ∧
      (∀ e ∈ (settleExits forked).1,
        ∀ e' ∈ (settleExits ⟨forked.nodes.reverse, forked.edges.reverse⟩).1, e'.pair = e.pair →
          e'.sourceHandle = e.sourceHandle) ∧
      (settleExits forked).1.map Edge.sourceHandle =
        [.str "false", .str "false", .str "false", .str "true", .str "true", .str "true"] := by
  have distinct : forked.nodeIds.Nodup := by decide +kernel
  have simple : (forked.edges.map Edge.pair).Nodup := by decide +kernel
  have level : Level forked.nodes := by decide +kernel
  have listed : (Workflow.mk forked.nodes.reverse forked.edges.reverse).nodes.Perm forked.nodes :=
    List.reverse_perm _
  obtain ⟨perm, handles⟩ := settleExits_listed listed (List.reverse_perm _) distinct simple level
  refine ⟨distinct, simple, level, perm, handles, ?_⟩
  decide +kernel

end WorkflowRepair.Repair
