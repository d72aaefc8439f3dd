import WorkflowRepair.Proofs.Repair.Guarantee
import WorkflowRepair.Proofs.Repair.Staying

/-!
The ids of edges after a structural repair. An edge that had one keeps it; the others get theirs one
after the other, each the first that is free when its turn comes. In use are then the ids that edges
which stay have had all along, and those that earlier ones got, so no two edges come to share an id
that is new.
-/

namespace WorkflowRepair.Repair

/-! ### Ids one after the other -/

/-- The ids in use when links without an id have got theirs. -/
def idsAfter (used : List String) : List Link → List String
  | [] => used
  | link :: rest =>
    match link.edge.id with
    | some _ => idsAfter used rest
    | none => idsAfter (freshId link.source link.target used :: used) rest

variable {used : List String} {ls before after : List Link} {l : Link} {id : String}

theorem idFlaws_append (used : List String) (ls rest : List Link) :
    idFlaws used (ls ++ rest) = idFlaws used ls ++ idFlaws (idsAfter used ls) rest := by
  induction ls generalizing used with
  | nil => rfl
  | cons l ls ih =>
    rw [List.cons_append, idFlaws, idFlaws, idsAfter]
    cases l.edge.id with
    | some id => exact ih used
    | none => exact congrArg (List.cons _) (ih _)

theorem idFlaw_mem (unnamed : l.edge.id = none) :
    l.flaw (.missingId (freshId l.source l.target (idsAfter used before))) ∈
      idFlaws used (before ++ l :: after) := by
  rw [idFlaws_append, idFlaws, unnamed]
  exact List.mem_append_right _ List.mem_cons_self

theorem mem_idsAfter : id ∈ idsAfter used ls ↔
    id ∈ used ∨ ∃ flaw ∈ idFlaws used ls, flaw.kind = .missingId id := by
  induction ls generalizing used with
  | nil => simp [idsAfter, idFlaws]
  | cons l rest ih =>
    rw [idsAfter, idFlaws]
    cases l.edge.id with
    | some given => exact ih
    | none =>
      have here : (l.flaw (.missingId (freshId l.source l.target used))).kind = .missingId id ↔
          id = freshId l.source l.target used := by
        simp [Link.flaw, eq_comm]
      simp only [ih, List.mem_cons, exists_eq_or_imp, here]
      rw [or_assoc, or_left_comm]

theorem length_idsAfter (used : List String) (ls : List Link) :
    (idsAfter used ls).length = used.length + ls.countP fun l => ¬ l.edge.id.isSome = true := by
  induction ls generalizing used with
  | nil => rfl
  | cons l rest ih =>
    rw [idsAfter]
    cases given : l.edge.id with
    | some id => rw [ih, List.countP_cons_of_neg (by simp [given])]
    | none =>
      rw [ih, List.countP_cons_of_pos (by simp [given]), List.length_cons]
      omega

theorem index_idFlaws_sublist (used : List String) (ls : List Link) :
    ((idFlaws used ls).map EdgeFlaw.index).Sublist (ls.map Link.index) := by
  induction ls generalizing used with
  | nil => exact .refl _
  | cons l rest ih =>
    rw [idFlaws]
    cases l.edge.id with
    | some id => exact (ih used).cons _
    | none => exact (ih _).cons_cons _

/-! ### The turn of a link -/

variable {w : Workflow}

/-- The ids that links which are kept have had all along. -/
def givenIds (w : Workflow) : List String := (keptLinks w).filterMap fun l => l.edge.id

theorem mem_idFlaws_of_missingId {flaw : EdgeFlaw} (mem : flaw ∈ edgeFlaws w)
    (kind : flaw.kind = .missingId id) : flaw ∈ idFlaws (givenIds w) (keptLinks w) := by
  simp only [edgeFlaws, List.mem_append, List.mem_map, List.mem_flatMap] at mem
  rcases mem with (((⟨entry, -, ends⟩ | ⟨l, -, rfl⟩) | ⟨l, -, rfl⟩) | ⟨l, -, rfl⟩) | missing
  · obtain ⟨-, dangling | ⟨l, side, written, -, rfl⟩⟩ := mem_endFlaws ends
    · rw [dangling] at kind
      cases kind
    · cases kind
  · cases kind
  · cases kind
  · cases kind
  · exact missing

/-- One flaw at a place at most gives an id, and the mending of the others leaves ids alone. -/
theorem id_mendedEdge_of_flaw (filled : id ≠ "")
    (mem : l.flaw (.missingId id) ∈ idFlaws (givenIds w) (keptLinks w)) :
    (mendedEdge w l).id = some id := by
  have known : l.flaw (.missingId id) ∈ edgeFlaws w := List.mem_append_right _ mem
  refine foldl_amend (fun e => e.id = some id) (fun flaw here e now => ?_)
    (.inr ⟨_, mem_flawsAt.2 ⟨known, rfl⟩, fun e => id_amend_missingId rfl filled⟩)
  obtain ⟨also, place⟩ := mem_flawsAt.1 here
  cases kind : flaw.kind with
  | missingId other =>
    have distinct : ((idFlaws (givenIds w) (keptLinks w)).map EdgeFlaw.index).Nodup :=
      ((nodup_places _ _).sublist ((keptLinks_sublist w).map _)).sublist
        (index_idFlaws_sublist _ _)
    obtain rfl := List.inj_on_of_nodup_map distinct (mem_idFlaws_of_missingId also kind) mem place
    exact id_amend_missingId rfl filled
  | _ =>
    rw [id_amend_of_ne (by simp [kind])]
    exact now

theorem id_mendedEdge (turn : keptLinks w = before ++ l :: after) (unnamed : l.edge.id = none) :
    (mendedEdge w l).id = some (freshId l.source l.target (idsAfter (givenIds w) before)) := by
  refine id_mendedEdge_of_flaw (freshId_ne_empty _ _ _) ?_
  rw [turn]
  exact idFlaw_mem unnamed

theorem ascending_keptLinks (w : Workflow) :
    (keptLinks w).Pairwise fun l l' => l.index < l'.index :=
  (ascending_links _ _).sublist (keptLinks_sublist w)

theorem mem_before_iff (turn : keptLinks w = before ++ l :: after) {other : Link} :
    other ∈ before ↔ other ∈ keptLinks w ∧ other.index < l.index := by
  have ascending := ascending_keptLinks w
  rw [turn, List.pairwise_append] at ascending
  obtain ⟨-, later, earlier⟩ := ascending
  rw [turn]
  refine ⟨fun mem => ⟨List.mem_append_left _ mem, earlier other mem l List.mem_cons_self⟩, ?_⟩
  rintro ⟨mem, less⟩
  rcases List.mem_append.1 mem with here | there
  · exact here
  · rcases List.mem_cons.1 there with rfl | there
    · exact absurd less (Nat.lt_irrefl _)
    · exact absurd less (Nat.lt_asymm ((List.pairwise_cons.1 later).1 other there))

/-- The ids in use at the turn of a link: those given all along, and those that earlier links
got. -/
theorem mem_turn_iff (turn : keptLinks w = before ++ l :: after) :
    id ∈ idsAfter (givenIds w) before ↔ ∃ other ∈ keptLinks w,
      other.edge.id = some id ∨ other.index < l.index ∧ (mendedEdge w other).id = some id := by
  rw [mem_idsAfter]
  constructor
  · rintro (given | ⟨flaw, mem, kind⟩)
    · obtain ⟨other, kept, has⟩ := List.mem_filterMap.1 given
      exact ⟨other, kept, .inl has⟩
    · obtain ⟨other, earlier, -, fresh, filled, rfl⟩ := mem_idFlaws mem
      cases kind
      obtain ⟨kept, less⟩ := (mem_before_iff turn).1 earlier
      have known : other.flaw (.missingId id) ∈ idFlaws (givenIds w) (keptLinks w) := by
        rw [turn, idFlaws_append]
        exact List.mem_append_left _ mem
      exact ⟨other, kept, .inr ⟨less, id_mendedEdge_of_flaw filled known⟩⟩
  · rintro ⟨other, kept, given | ⟨less, got⟩⟩
    · exact .inl (List.mem_filterMap.2 ⟨other, kept, given⟩)
    · cases given : other.edge.id with
      | some own =>
        have same := (mendedBy_mendedEdge kept).sameId own given
        obtain rfl := Option.some.inj (same.symm.trans got)
        exact .inl (List.mem_filterMap.2 ⟨other, kept, given⟩)
      | none =>
        obtain ⟨first, later, rfl⟩ := List.append_of_mem ((mem_before_iff turn).2 ⟨kept, less⟩)
        rw [List.append_assoc, List.cons_append] at turn
        obtain rfl := Option.some.inj ((id_mendedEdge turn given).symm.trans got)
        exact .inr ⟨_, idFlaw_mem given, rfl⟩

/-- At the turn of a link fewer ids are in use than links are kept. -/
theorem length_turn_lt (turn : keptLinks w = before ++ l :: after) (unnamed : l.edge.id = none) :
    (idsAfter (givenIds w) before).length < (keptLinks w).length := by
  have given : (givenIds w).length = before.countP (fun l => l.edge.id.isSome) +
      after.countP fun l => l.edge.id.isSome := by
    rw [givenIds, List.length_filterMap_eq_countP, turn, List.countP_append,
      List.countP_cons_of_neg (by simp [unnamed])]
  have parts := List.length_eq_countP_add_countP (fun l => l.edge.id.isSome) (l := before)
  have few := List.countP_le_length (p := fun l : Link => l.edge.id.isSome) (l := after)
  rw [length_idsAfter, given, turn, List.length_append, List.length_cons]
  omega

/-! ### The ids afterwards -/

/-- The edge at a place stays, and this is what becomes of it. -/
def Stays (w : Workflow) (place : Nat) (edge made : Edge) : Prop :=
  w.edges[place]? = some edge ∧ mendEdge? (safeFlaws w) (edge, place) = some made

/-- An id is in use when it is the turn of a place: an edge that stays has had it all along, or one
at an earlier place has got it. -/
def InUse (w : Workflow) (place : Nat) (id : String) : Prop :=
  ∃ other edge made, Stays w other edge made ∧
    (edge.id = some id ∨ other < place ∧ made.id = some id)

theorem stays_iff {place : Nat} {edge made : Edge} :
    Stays w place edge made ↔
      ∃ l ∈ keptLinks w, l.index = place ∧ l.edge = edge ∧ mendedEdge w l = made := by
  rw [Stays, safeFlaws_eq]
  constructor
  · rintro ⟨here, stays⟩
    obtain ⟨l, kept, rfl, rfl, -⟩ := exists_of_mendEdge? here stays
    exact ⟨l, kept, rfl, rfl, Option.some.inj ((mendEdge?_of_kept kept).symm.trans stays)⟩
  · rintro ⟨l, kept, rfl, rfl, rfl⟩
    exact ⟨(mem_links.1 (keptLinks_subset w kept)).1, mendEdge?_of_kept kept⟩

theorem inUse_iff (turn : keptLinks w = before ++ l :: after) :
    InUse w l.index id ↔ id ∈ idsAfter (givenIds w) before := by
  rw [mem_turn_iff turn]
  constructor
  · rintro ⟨place, edge, made, stays, use⟩
    obtain ⟨other, kept, rfl, rfl, rfl⟩ := stays_iff.1 stays
    exact ⟨other, kept, use⟩
  · rintro ⟨other, kept, use⟩
    exact ⟨_, _, _, stays_iff.2 ⟨other, kept, rfl, rfl, rfl⟩, use⟩

theorem length_edges_mended (w : Workflow) : (mended w).edges.length = (keptLinks w).length := by
  rw [edges_mended_eq_map, List.length_map]

/-- An edge without an id gets the first that is free at its turn. -/
theorem firstFree_mendedEdge (kept : l ∈ keptLinks w) (unnamed : l.edge.id = none) :
    ∃ id, (mendedEdge w l).id = some id ∧
      FirstFree (InUse w l.index) (mended w).edges.length
        ("edge_" ++ l.source ++ "_" ++ l.target) "_" id := by
  obtain ⟨before, after, turn⟩ := List.append_of_mem kept
  refine ⟨_, id_mendedEdge turn unnamed, (firstFree_freshName _ _ _).of_iff ?_ ?_⟩
  · exact fun id => inUse_iff turn
  · rw [length_edges_mended]
    exact length_turn_lt turn unnamed

/-- No other edge has an id that was filled in: of two such ids the later one was made when the
earlier was in use. -/
theorem id_ne_of_filled {place place' : Nat} {edge edge' made made' : Edge}
    (stays : Stays w place edge made) (unnamed : edge.id = none)
    (stays' : Stays w place' edge' made') (apart : place' ≠ place) : made'.id ≠ made.id := by
  have fresh {place : Nat} {edge made : Edge} (stays : Stays w place edge made)
      (unnamed : edge.id = none) : ∀ id, made.id = some id → ¬ InUse w place id := by
    obtain ⟨l, kept, rfl, rfl, rfl⟩ := stays_iff.1 stays
    obtain ⟨id, filled, first⟩ := firstFree_mendedEdge kept unnamed
    intro other got
    obtain rfl := Option.some.inj (filled.symm.trans got)
    exact first.not_taken
  intro same
  cases given : edge'.id with
  | some own =>
    obtain ⟨l, kept, rfl, rfl, rfl⟩ := stays_iff.1 stays'
    have kept_id := (mendedBy_mendedEdge kept).sameId own given
    exact fresh stays unnamed own (same ▸ kept_id) ⟨_, _, _, stays', .inl given⟩
  | none =>
    obtain ⟨l, kept, rfl, rfl, rfl⟩ := stays_iff.1 stays'
    obtain ⟨id, filled, -⟩ := firstFree_mendedEdge kept given
    rcases Nat.lt_or_gt_of_ne apart with earlier | later
    · exact fresh stays unnamed id (same ▸ filled) ⟨_, _, _, stays', .inr ⟨earlier, filled⟩⟩
    · exact fresh stays' given id filled ⟨_, _, _, stays, .inr ⟨later, same ▸ filled⟩⟩

/-- After a structural repair every edge has an id. One that had an id has kept it. One that had
none has the first that was free when its turn came, found within as many numbers as there are
edges, and shares it with no other. The search for such an id ends whatever ids are in use. -/
theorem ids_mended (w : Workflow) :
    (∀ e ∈ (mend w (safeFlaws w)).edges,
      (∃ place edge, Stays w place edge e) ∧ ∃ id, e.id = some id ∧ id ≠ "") ∧
    (∀ place edge made, Stays w place edge made →
      (∀ id, edge.id = some id → made.id = some id) ∧
      (edge.id = none →
        (∃ id, made.id = some id ∧
          FirstFree (InUse w place) (mend w (safeFlaws w)).edges.length
            ("edge_" ++ made.source ++ "_" ++ made.target) "_" id) ∧
        ∀ place' edge' made', Stays w place' edge' made' → place' ≠ place →
          made'.id ≠ made.id)) ∧
    ∀ source target used, FirstFree (· ∈ used) (used.length + 1)
      ("edge_" ++ source ++ "_" ++ target) "_" (freshId source target used) := by
  rw [show mend w (safeFlaws w) = mended w from mend_safe w]
  refine ⟨fun e mem => ⟨?_, exists_id_mended mem⟩, fun place edge made stays => ?_,
    fun _ _ _ => firstFree_freshName _ _ _⟩
  · rw [edges_mended_eq_map] at mem
    obtain ⟨l, kept, rfl⟩ := List.mem_map.1 mem
    exact ⟨_, _, stays_iff.2 ⟨l, kept, rfl, rfl, rfl⟩⟩
  · refine ⟨?_, fun unnamed => ⟨?_, fun place' edge' made' => id_ne_of_filled stays unnamed⟩⟩
    all_goals
      obtain ⟨l, kept, rfl, rfl, rfl⟩ := stays_iff.1 stays
      have made := mendedBy_mendedEdge kept
    · exact made.sameId
    · rw [made.source, made.target]
      exact firstFree_mendedEdge kept unnamed

/-- Two pairs of nodes with one base, and an edge that has the first numbered form of it; the edge
that has the base itself leads nowhere. -/
def crossed : Workflow :=
  { nodes := [{ id := "a", type := "input" }, { id := "a_b", type := "llm" },
      { id := "c", type := "output" }, { id := "b_c", type := "output" }]
    edges := [{ source := "a", target := "gone", givenId := some "edge_a_b_c" },
      { source := "a", target := "b_c" }, { source := "a_b", target := "c" },
      { source := "a", target := "a_b", givenId := some "edge_a_b_c_1" }] }

/-- The first edge without an id gets the base, and the other the second numbered form. -/
theorem ids_mended_crossed :
    let second : Edge := { source := "a_b", target := "c" }
    let made : Edge := { second with givenId := some "edge_a_b_c_2" }
    (mend crossed (safeFlaws crossed)).edges.map Edge.id =
        [some "edge_a_b_c", some "edge_a_b_c_2", some "edge_a_b_c_1"] ∧
      Stays crossed 2 second made ∧
      FirstFree (InUse crossed 2) 3 "edge_a_b_c" "_" "edge_a_b_c_2" ∧
      ∀ place edge other, Stays crossed place edge other → place ≠ 2 →
        other.id ≠ some "edge_a_b_c_2" := by
  intro second made
  have ids : (mend crossed (safeFlaws crossed)).edges.map Edge.id =
      [some "edge_a_b_c", some "edge_a_b_c_2", some "edge_a_b_c_1"] := by
    decide +kernel
  have stays : Stays crossed 2 second made := by
    constructor
    · rfl
    · decide +kernel
  have count := congrArg List.length ids
  rw [List.length_map] at count
  obtain ⟨⟨id, filled, first⟩, alone⟩ := ((ids_mended crossed).2.1 2 second made stays).2 rfl
  obtain rfl := Option.some.inj filled
  rw [count] at first
  exact ⟨ids, stays, first, alone⟩

end WorkflowRepair.Repair
