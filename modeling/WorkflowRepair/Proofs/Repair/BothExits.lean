import WorkflowRepair.Proofs.Listed
import WorkflowRepair.Proofs.Repair.Exits
import WorkflowRepair.Proofs.Repair.Mending

/-!
What the settling of exits comes to. Every branch with just two edges to nodes of the workflow has
one exit of each sort afterwards, a good handle stays where the other edge leaves room for it, no
other edge changes, and the fixes are the changes.
-/

namespace WorkflowRepair.Repair

variable {nodes : List Node} {ids : List String}

/-! ### Two edges -/

/-- Two edges of a branch before and after their exits are settled: there is one of each sort, and a
good handle is kept unless the other edge has the same one. -/
structure Parted (first second first' second' : Edge) : Prop where
  both : first'.sourceHandle = .str "true" ∧ second'.sourceHandle = .str "false" ∨
    first'.sourceHandle = .str "false" ∧ second'.sourceHandle = .str "true"
  pair : ∀ a b, first.exit? = some a → second.exit? = some b → a ≠ b →
    first' = first ∧ second' = second
  onlyFirst : ∀ a, first.exit? = some a → second.exit? = none → first' = first
  onlySecond : ∀ b, first.exit? = none → second.exit? = some b → second' = second

theorem both_of_exits {e e' : Edge} {a b : Exit} (one : e.exit? = some a) (two : e'.exit? = some b)
    (apart : a ≠ b) : e.sourceHandle = .str "true" ∧ e'.sourceHandle = .str "false" ∨
      e.sourceHandle = .str "false" ∧ e'.sourceHandle = .str "true" := by
  rw [Validation.exit?_eq_iff] at one two
  cases a <;> cases b
  · exact absurd rfl apart
  · exact .inl ⟨one, two⟩
  · exact .inr ⟨one, two⟩
  · exact absurd rfl apart

theorem leaveBy_of_exit? {e : Edge} {a : Exit} (own : e.exit? = some a) : e.leaveBy a = e := by
  rw [Edge.leaveBy, ← Validation.exit?_eq_iff.1 own]

/-- A single good handle is among the exits that are assigned. -/
theorem own_of_assignExits {first second : Edge} {reason : ExitReason} {a b : Exit}
    (assigned : assignExits nodes first second = some (reason, a, b)) :
    (∀ c, first.exit? = some c → second.exit? = none → a = c) ∧
      ∀ c, first.exit? = none → second.exit? = some c → b = c := by
  constructor
  · intro c one none
    simp only [assignExits, one, none] at assigned
    cases assigned
    rfl
  · intro c none two
    simp only [assignExits, none, two] at assigned
    cases assigned
    rfl

theorem assignExits_eq_none_iff {first second : Edge} : assignExits nodes first second = none ↔
    ∃ a b, first.exit? = some a ∧ second.exit? = some b ∧ a ≠ b := by
  have given : assignExits.byPosition nodes first second ≠ none := by
    unfold assignExits.byPosition
    split <;> simp
  cases one : first.exit? <;> cases two : second.exit? <;> simp [assignExits, one, two, given]

theorem parted_leave (nodes : List Node) (first second : Edge) :
    Parted first second
      (first.leave ((assignExits nodes first second).map fun exits => exits.2.1))
      (second.leave ((assignExits nodes first second).map fun exits => exits.2.2)) := by
  cases assigned : assignExits nodes first second with
  | none =>
    obtain ⟨a, b, one, two, apart⟩ := assignExits_eq_none_iff.1 assigned
    exact ⟨both_of_exits one two apart, fun _ _ _ _ _ => ⟨rfl, rfl⟩, fun _ _ _ => rfl,
      fun _ _ _ => rfl⟩
  | some exits =>
    obtain ⟨reason, a, b⟩ := exits
    obtain ⟨ownFirst, ownSecond⟩ := own_of_assignExits assigned
    constructor
    · exact both_of_exits (Edge.exit?_leaveBy a first) (Edge.exit?_leaveBy b second)
        (ne_of_assignExits assigned)
    · intro c d one two apart
      rw [assignExits_eq_none_iff.2 ⟨c, d, one, two, apart⟩] at assigned
      cases assigned
    · intro c one none
      rw [← ownFirst c one none] at one
      exact leaveBy_of_exit? one
    · intro c none two
      rw [← ownSecond c none two] at two
      exact leaveBy_of_exit? two

/-! ### The edges of a branch -/

/-- The edge at the place leads from the id to a node of the workflow; an empty id is no node's. -/
def LeadsOut (w : Workflow) (id : String) (p : Nat) : Prop :=
  ∃ e, w.edges[p]? = some e ∧ e.source = id ∧ e.target ∈ w.nodeIds

/-- Just two edges lead from the id to nodes of the workflow, those at the two places. -/
structure TwoExits (w : Workflow) (id : String) (i j : Nat) : Prop where
  ascend : i < j
  only : ∀ p, LeadsOut w id p ↔ p = i ∨ p = j

theorem ascending_exitPlaces (ids : List String) (edges : List Edge) (b : String) :
    (exitPlaces ids edges b).Pairwise (· < ·) := by
  rw [exitPlaces_eq, List.pairwise_map]
  exact (places_ascend edges).sublist List.filter_sublist

theorem leadsOut_iff {w : Workflow} {id : String} {p : Nat} :
    LeadsOut w id p ↔ p ∈ exitPlaces w.nodeIds w.edges id := by
  simp only [LeadsOut, mem_exitPlaces, List.contains_iff_mem]

theorem twoExits_iff {w : Workflow} {id : String} {i j : Nat} :
    TwoExits w id i j ↔ exitPlaces w.nodeIds w.edges id = [i, j] := by
  have ascending := ascending_exitPlaces w.nodeIds w.edges id
  constructor
  · rintro ⟨ascend, only⟩
    refine List.Perm.eq_of_pairwise ?_ ascending (by simpa using ascend) ?_
    · intro a b _ _ less more
      omega
    · refine (List.perm_ext_iff_of_nodup (nodup_exitPlaces _ _ _) ?_).2 fun p => ?_
      · simp [Nat.ne_of_lt ascend]
      · rw [← leadsOut_iff, only]
        simp
  · intro places
    rw [places] at ascending
    refine ⟨by simpa using ascending, fun p => ?_⟩
    rw [leadsOut_iff, places]
    simp

/-! ### The fixes -/

/-- The fix tells the edge at the place and the handle that it has. -/
def ExitFix.Tells (fix : ExitFix) (edges : List Edge) (p : Nat) : Prop :=
  ∃ e, edges[p]? = some e ∧ fix.branchId = e.source ∧ fix.edgeId = e.givenId ∧
    fix.target = e.target ∧ e.sourceHandle = .str fix.exit.handle

/-- The fixes tell the edges that are others than before, each once and with its new handle. -/
def TellsChanges (before after : List Edge) (fixes : List ExitFix) : Prop :=
  ∃ entries : List (Nat × ExitFix), entries.map Prod.snd = fixes ∧
    (entries.map Prod.fst).Nodup ∧
    (∀ p, p ∈ entries.map Prod.fst ↔ after[p]? ≠ before[p]?) ∧
    ∀ entry ∈ entries, entry.2.Tells after entry.1

namespace TellsChanges

variable {before middle after : List Edge} {fixes more : List ExitFix}

theorem refl (edges : List Edge) : TellsChanges edges edges [] :=
  ⟨[], rfl, List.nodup_nil, by simp, by simp⟩

theorem eq_nil (h : TellsChanges before before fixes) : fixes = [] := by
  obtain ⟨entries, rfl, -, places, -⟩ := h
  cases entries with
  | nil => rfl
  | cons entry rest => exact absurd rfl ((places entry.1).1 List.mem_cons_self)

/-- Changes one after the other, when what is changed first is left alone later. -/
theorem append (h : TellsChanges before middle fixes) (h' : TellsChanges middle after more)
    (apart : ∀ p : Nat, middle[p]? ≠ before[p]? → after[p]? = middle[p]?) :
    TellsChanges before after (fixes ++ more) := by
  obtain ⟨entries, rfl, distinct, places, tells⟩ := h
  obtain ⟨entries', rfl, distinct', places', tells'⟩ := h'
  refine ⟨entries ++ entries', List.map_append, ?_, ?_, ?_⟩
  · rw [List.map_append]
    refine List.nodup_append.2 ⟨distinct, distinct', ?_⟩
    rintro p mem q mem' rfl
    exact (places' p).1 mem' (apart p ((places p).1 mem))
  · intro p
    rw [List.map_append, List.mem_append, places, places']
    by_cases first : middle[p]? = before[p]?
    · rw [first]
      simp
    · rw [apart p first]
      simp [first]
  · intro entry mem
    rcases List.mem_append.1 mem with early | late
    · obtain ⟨e, here, told⟩ := tells entry early
      have changed := (places entry.1).1 (List.mem_map_of_mem early)
      exact ⟨e, (apart entry.1 changed).trans here, told⟩
    · exact tells' entry late

end TellsChanges

section Steps

variable {edges : List Edge} {b : String} {p : Nat}

theorem getElem?_setExit (reason : ExitReason) (place : Nat) (exit : Exit) (edges : List Edge) :
    (setExit b reason place exit edges).1[p]? =
      if place = p then edges[p]?.map (Edge.leaveBy exit) else edges[p]? := by
  rw [setExit_eq_modify, List.getElem?_modify]
  split
  · rfl
  · cases edges[p]? <;> rfl

theorem eq_of_setExit {reason : ExitReason} {place : Nat} {exit : Exit}
    (changed : (setExit b reason place exit edges).1[p]? ≠ edges[p]?) : place = p := by
  by_contra elsewhere
  rw [getElem?_setExit, if_neg elsewhere] at changed
  exact changed rfl

theorem tellsChanges_setExit {e : Edge} {place : Nat} (here : edges[place]? = some e)
    (own : e.source = b) (reason : ExitReason) (exit : Exit) :
    TellsChanges edges (setExit b reason place exit edges).1
      (setExit b reason place exit edges).2 := by
  by_cases settled : e.sourceHandle = .str exit.handle
  · have same : setExit b reason place exit edges = (edges, []) := by
      simp only [setExit, here, if_pos settled]
    rw [same]
    exact .refl edges
  · have fixes : (setExit b reason place exit edges).2 =
        [⟨b, e.givenId, e.target, exit, reason⟩] := by
      simp only [setExit, here, if_neg settled]
    have new : (setExit b reason place exit edges).1[place]? = some (e.leaveBy exit) := by
      rw [getElem?_setExit, if_pos rfl, here, Option.map_some]
    have other : e.leaveBy exit ≠ e := by
      intro same
      rw [← same] at settled
      exact settled rfl
    refine ⟨[(place, ⟨b, e.givenId, e.target, exit, reason⟩)], fixes.symm, by simp, ?_, ?_⟩
    · intro q
      rw [List.map_singleton, List.mem_singleton]
      constructor
      · rintro rfl
        rw [new, here]
        exact fun same => other (Option.some.inj same)
      · intro changed
        exact (eq_of_setExit changed).symm
    · intro entry mem
      rw [List.mem_singleton.1 mem]
      exact ⟨e.leaveBy exit, new, own.symm, rfl, rfl, rfl⟩

theorem tellsChanges_settleBranch (nodes : List Node) (ids : List String) (b : String)
    (edges : List Edge) : TellsChanges edges (settleBranch nodes ids b edges).1
      (settleBranch nodes ids b edges).2 := by
  unfold settleBranch
  split
  · next i j places =>
    split
    · next first second here there =>
      split
      · exact .refl edges
      · next reason a c _ =>
        have apart : i ≠ j := ne_of_exitPlaces places
        have mem : i ∈ exitPlaces ids edges b ∧ j ∈ exitPlaces ids edges b := by simp [places]
        have source : first.source = b := source_of_mem_exitPlaces mem.1 here
        have source' : second.source = b := source_of_mem_exitPlaces mem.2 there
        have untouched : (setExit b reason i a edges).1[j]? = some second := by
          rw [getElem?_setExit, if_neg apart, there]
        refine (tellsChanges_setExit here source reason a).append
          (tellsChanges_setExit untouched source' reason c) ?_
        intro p changed
        have own : i = p := eq_of_setExit changed
        rw [getElem?_setExit, if_neg fun other => apart (own.trans other.symm)]
    · exact .refl edges
  · exact .refl edges

/-- A branch changes edges of its own only. -/
theorem source_of_settleBranch {e : Edge} (here : edges[p]? = some e)
    (changed : (settleBranch nodes ids b edges).1[p]? ≠ edges[p]?) : e.source = b := by
  by_contra other
  rw [getElem?_settleBranch, here, exitAt?_of_source_ne here other] at changed
  exact changed rfl

theorem tellsChanges_settleBranches (nodes : List Node) (ids : List String) {bs : List String}
    (distinct : bs.Nodup) (edges : List Edge) :
    TellsChanges edges (settleBranches nodes ids bs edges).1
      (settleBranches nodes ids bs edges).2 := by
  induction bs generalizing edges with
  | nil => exact .refl edges
  | cons b bs ih =>
    obtain ⟨new, distinct⟩ := List.nodup_cons.1 distinct
    refine (tellsChanges_settleBranch nodes ids b edges).append (ih distinct _) ?_
    intro p changed
    cases here : edges[p]? with
    | none =>
      rw [getElem?_settleBranch, here] at changed
      exact absurd rfl changed
    | some e =>
      have own := source_of_settleBranch here changed
      have step : (settleBranch nodes ids b edges).1[p]? =
          some (e.leave (exitAt? nodes ids b edges p)) := by
        rw [getElem?_settleBranch, here]
        rfl
      rw [settleBranches_cons, getElem?_settleBranches step, step, Edge.source_leave, own,
        if_neg new]
      rfl

end Steps

/-! ### Workflows -/

variable {w : Workflow}

/-- What the edges and the fixes of a workflow are after its exits are settled: the edges are the
same but for handles, each branch with two exits has one of each sort, no other edge has changed,
and the fixes tell the changes. -/
structure ExitsSettled (w : Workflow) (edges : List Edge) (fixes : List ExitFix) : Prop where
  bare : edges.map Edge.bare = w.edges.map Edge.bare
  parted : ∀ n ∈ w.nodes, n.isKind .branch = true → ∀ i j, TwoExits w n.id i j →
    ∃ first second first' second', w.edges[i]? = some first ∧ w.edges[j]? = some second ∧
      edges[i]? = some first' ∧ edges[j]? = some second' ∧ Parted first second first' second'
  changed : ∀ p : Nat, edges[p]? ≠ w.edges[p]? →
    ∃ n ∈ w.nodes, n.isKind .branch = true ∧ ∃ i j, TwoExits w n.id i j ∧ (p = i ∨ p = j)
  told : TellsChanges w.edges edges fixes

theorem mem_branchIds {b : String} :
    b ∈ branchIds w ↔ ∃ n ∈ w.nodes, n.isKind .branch = true ∧ n.id = b := by
  simp [branchIds, Workflow.nodesOfKind, and_assoc]

/-- The edge at a place, by the exit that its branch gives it. -/
theorem getElem?_settleExits {p : Nat} {e : Edge} (here : w.edges[p]? = some e) :
    (settleExits w).1[p]? = some (e.leave
      (if e.source ∈ branchIds w then exitAt? w.nodes w.nodeIds e.source w.edges p else none)) :=
  getElem?_settleBranches here

theorem parted_settleExits {n : Node} (mem : n ∈ w.nodes) (branch : n.isKind .branch = true)
    {i j : Nat} (two : TwoExits w n.id i j) :
    ∃ first second first' second', w.edges[i]? = some first ∧ w.edges[j]? = some second ∧
      (settleExits w).1[i]? = some first' ∧ (settleExits w).1[j]? = some second' ∧
        Parted first second first' second' := by
  obtain ⟨first, here, source, -⟩ := (two.only i).2 (.inl rfl)
  obtain ⟨second, there, source', -⟩ := (two.only j).2 (.inr rfl)
  have known : n.id ∈ branchIds w := mem_branchIds.2 ⟨n, mem, branch, rfl⟩
  have chosen : chosen? w.nodes w.nodeIds n.id w.edges = _ :=
    chosen?_pair (twoExits_iff.1 two) here there
  have one : exitAt? w.nodes w.nodeIds n.id w.edges i =
      (assignExits w.nodes first second).map fun exits => exits.2.1 := by
    rw [exitAt?, chosen]
    cases assignExits w.nodes first second <;> simp
  have other : exitAt? w.nodes w.nodeIds n.id w.edges j =
      (assignExits w.nodes first second).map fun exits => exits.2.2 := by
    rw [exitAt?, chosen]
    cases assignExits w.nodes first second <;> simp [Nat.ne_of_gt two.ascend]
  refine ⟨first, second, _, _, here, there, ?_, ?_, parted_leave w.nodes first second⟩
  · rw [getElem?_settleExits here, source, if_pos known, one]
  · rw [getElem?_settleExits there, source', if_pos known, other]

theorem twoExits_of_exitAt? {b : String} {p : Nat} {exit : Exit}
    (given : exitAt? w.nodes w.nodeIds b w.edges p = some exit) :
    ∃ i j, TwoExits w b i j ∧ (p = i ∨ p = j) := by
  have mem := mem_exitPlaces_of_exitAt? given
  cases chosen : chosen? w.nodes w.nodeIds b w.edges with
  | none =>
    rw [exitAt?_of_chosen?_none chosen] at given
    cases given
  | some pair =>
    obtain ⟨⟨i, a⟩, ⟨j, c⟩⟩ := pair
    obtain ⟨places, -⟩ := chosen?_eq_some chosen
    rw [places] at mem
    exact ⟨i, j, twoExits_iff.2 places, by simpa using mem⟩

theorem twoExits_of_changed {p : Nat} (changed : (settleExits w).1[p]? ≠ w.edges[p]?) :
    ∃ n ∈ w.nodes, n.isKind .branch = true ∧ ∃ i j, TwoExits w n.id i j ∧ (p = i ∨ p = j) := by
  cases here : w.edges[p]? with
  | none =>
    have bare := congrArg (·[p]?) (map_bare_settleExits w)
    simp only [List.getElem?_map, here, Option.map_none, Option.map_eq_none_iff] at bare
    exact absurd (bare.trans here.symm) changed
  | some e =>
    rw [getElem?_settleExits here, here] at changed
    by_cases known : e.source ∈ branchIds w
    · rw [if_pos known] at changed
      obtain ⟨n, mem, branch, source⟩ := mem_branchIds.1 known
      cases given : exitAt? w.nodes w.nodeIds e.source w.edges p with
      | none =>
        rw [given] at changed
        exact absurd rfl changed
      | some exit =>
        rw [← source] at given
        exact ⟨n, mem, branch, twoExits_of_exitAt? given⟩
    · rw [if_neg known] at changed
      exact absurd rfl changed

/-- Settling the exits of a workflow does what it is to do, and doing so once more changes nothing
and tells no fix. -/
theorem settleExits_settled (w : Workflow) :
    ExitsSettled w (settleExits w).1 (settleExits w).2 ∧
      settleExits { w with edges := (settleExits w).1 } = ((settleExits w).1, []) := by
  have told (edges : List Edge) : TellsChanges edges
      (settleBranches w.nodes w.nodeIds (branchIds w) edges).1
      (settleBranches w.nodes w.nodeIds (branchIds w) edges).2 :=
    tellsChanges_settleBranches w.nodes w.nodeIds (nodup_eraseDups _) edges
  constructor
  · exact ⟨map_bare_settleExits w, fun n mem branch i j two => parted_settleExits mem branch two,
      fun p changed => twoExits_of_changed changed, told w.edges⟩
  · have again := told (settleExits w).1
    have same : (settleBranches w.nodes w.nodeIds (branchIds w) (settleExits w).1).1 =
        (settleExits w).1 := settleBranches_again w.nodes w.nodeIds (branchIds w) w.edges
    rw [same] at again
    exact Prod.ext same again.eq_nil

/-- The good handle of the second edge stays, and an edge to no node of the workflow counts for
nothing. -/
example :
    let w : Workflow :=
      { nodes := [{ id := "b", type := "branch" }, { id := "x" }, { id := "y" }]
        edges := [{ source := "b", target := "x", sourceHandle := .str "maybe" },
          { source := "b", target := "gone" },
          { source := "b", target := "y", sourceHandle := .str "true" }] }
    (settleExits w).1.map Edge.sourceHandle = [.str "false", .null, .str "true"] ∧
      (settleExits w).2.map ExitFix.target = ["x"] := by
  decide +kernel

end WorkflowRepair.Repair
