import Mathlib.Data.List.Nodup
import WorkflowRepair.Proofs.Validation.Edges
import WorkflowRepair.Repair.BranchHandles

/-!
The settling of exits, branch by branch and edge by edge. A branch changes the handles of its own
two edges at most, and once they are settled it changes them no more, whatever other branches do. So
the edge at a place ends with the exit that its own branch gives it, and settling twice is settling
once.
-/

namespace WorkflowRepair

namespace Edge

/-- An edge apart from its handle. -/
def bare (e : Edge) : Edge := { e with sourceHandle := .null }

def leaveBy (exit : Exit) (e : Edge) : Edge := { e with sourceHandle := .str exit.handle }

/-- The edge with an exit, when it is given one. -/
def leave (e : Edge) : Option Exit → Edge
  | none => e
  | some exit => e.leaveBy exit

@[simp] theorem exit?_leaveBy (exit : Exit) (e : Edge) : (e.leaveBy exit).exit? = some exit := by
  cases exit <;> rfl

@[simp] theorem source_leave (e : Edge) (exit : Option Exit) :
    (e.leave exit).source = e.source := by
  cases exit <;> rfl

@[simp] theorem bare_leave (e : Edge) (exit : Option Exit) : (e.leave exit).bare = e.bare := by
  cases exit <;> rfl

theorem source_eq_of_bare {e e' : Edge} (h : e'.bare = e.bare) : e'.source = e.source := by
  have same : e'.bare.source = e.bare.source := by rw [h]
  exact same

theorem target_eq_of_bare {e e' : Edge} (h : e'.bare = e.bare) : e'.target = e.target := by
  have same : e'.bare.target = e.bare.target := by rw [h]
  exact same

theorem map_pair_of_bare {edges edges' : List Edge}
    (bare : edges'.map Edge.bare = edges.map Edge.bare) :
    edges'.map Edge.pair = edges.map Edge.pair := by
  have pairs (es : List Edge) : es.map Edge.pair = (es.map Edge.bare).map Edge.pair := by
    rw [List.map_map]
    rfl
  rw [pairs, bare, ← pairs]

end Edge

namespace Repair

variable {nodes : List Node} {ids : List String}

/-! ### The places of a branch -/

theorem exitPlaces_eq (ids : List String) (edges : List Edge) (b : String) :
    exitPlaces ids edges b =
      (edges.zipIdx.filter fun entry => entry.1.source = b ∧ ids.contains entry.1.target).map
        Prod.snd := by
  rw [exitPlaces, ← List.filterMap_eq_map, List.filterMap_filter]
  refine List.filterMap_congr fun entry _ => ?_
  simp only [decide_eq_true_eq]
  rfl

theorem mem_exitPlaces {edges : List Edge} {b : String} {p : Nat} :
    p ∈ exitPlaces ids edges b ↔
      ∃ e, edges[p]? = some e ∧ e.source = b ∧ ids.contains e.target = true := by
  simp [exitPlaces_eq, List.mem_zipIdx_iff_getElem?]

theorem source_of_mem_exitPlaces {edges : List Edge} {b : String} {p : Nat} {e : Edge}
    (mem : p ∈ exitPlaces ids edges b) (here : edges[p]? = some e) : e.source = b := by
  obtain ⟨e', here', source, -⟩ := mem_exitPlaces.1 mem
  rw [here] at here'
  cases here'
  exact source

theorem nodup_exitPlaces (ids : List String) (edges : List Edge) (b : String) :
    (exitPlaces ids edges b).Nodup := by
  have all : (edges.zipIdx.map Prod.snd).Nodup := by
    rw [List.zipIdx_map_snd]
    exact List.nodup_range'
  rw [exitPlaces_eq]
  exact all.sublist (List.filter_sublist.map Prod.snd)

theorem ne_of_exitPlaces {edges : List Edge} {b : String} {i j : Nat}
    (places : exitPlaces ids edges b = [i, j]) : i ≠ j := by
  have distinct := nodup_exitPlaces ids edges b
  rw [places] at distinct
  simpa using distinct

theorem exitPlaces_congr (ids : List String) {edges edges' : List Edge}
    (same : edges'.map Edge.bare = edges.map Edge.bare) (b : String) :
    exitPlaces ids edges' b = exitPlaces ids edges b := by
  have bare (edges : List Edge) :
      exitPlaces ids (edges.map Edge.bare) b = exitPlaces ids edges b := by
    simp only [exitPlaces, List.zipIdx_map, List.filterMap_map]
    rfl
  rw [← bare edges', same, bare]

/-! ### What a branch changes -/

theorem setExit_eq_modify (b : String) (reason : ExitReason) (place : Nat) (exit : Exit)
    (edges : List Edge) :
    (setExit b reason place exit edges).1 = edges.modify place (Edge.leaveBy exit) := by
  refine List.ext_getElem? fun p => ?_
  unfold setExit
  rw [List.getElem?_modify]
  by_cases here : place = p
  · subst here
    cases found : edges[place]? with
    | none => simp [found]
    | some e =>
      by_cases settled : e.sourceHandle = .str exit.handle
      · have same : e.leaveBy exit = e := by rw [Edge.leaveBy, ← settled]
        simp [found, settled, same]
      · have inside : place < edges.length := (List.getElem?_eq_some_iff.1 found).1
        simp [settled, inside, Edge.leaveBy]
  · cases found : edges[place]? with
    | none => simp [here]
    | some e =>
      by_cases settled : e.sourceHandle = .str exit.handle <;> simp [settled, here]

/-- The two places of a branch with the exits that they get, unless they are in order. -/
def chosen? (nodes : List Node) (ids : List String) (b : String) (edges : List Edge) :
    Option ((Nat × Exit) × (Nat × Exit)) :=
  match exitPlaces ids edges b with
  | [i, j] =>
    match edges[i]?, edges[j]? with
    | some first, some second =>
      (assignExits nodes first second).map fun exits => ((i, exits.2.1), (j, exits.2.2))
    | _, _ => none
  | _ => none

theorem chosen?_pair {edges : List Edge} {b : String} {i j : Nat} {first second : Edge}
    (places : exitPlaces ids edges b = [i, j]) (here : edges[i]? = some first)
    (here' : edges[j]? = some second) :
    chosen? nodes ids b edges =
      (assignExits nodes first second).map fun exits => ((i, exits.2.1), (j, exits.2.2)) := by
  simp only [chosen?, places, here, here']

theorem chosen?_eq_some {edges : List Edge} {b : String} {first second : Nat × Exit}
    (h : chosen? nodes ids b edges = some (first, second)) :
    exitPlaces ids edges b = [first.1, second.1] ∧
      ∃ e e' reason, edges[first.1]? = some e ∧ edges[second.1]? = some e' ∧
        assignExits nodes e e' = some (reason, first.2, second.2) := by
  unfold chosen? at h
  split at h
  · next places =>
    split at h
    · next e e' here here' =>
      obtain ⟨⟨reason, a, c⟩, assigned, same⟩ := Option.map_eq_some_iff.1 h
      cases same
      exact ⟨places, e, e', reason, here, here', assigned⟩
    · cases h
  · cases h

theorem settleBranch_eq (nodes : List Node) (ids : List String) (b : String) (edges : List Edge) :
    (settleBranch nodes ids b edges).1 =
      match chosen? nodes ids b edges with
      | none => edges
      | some (first, second) =>
        (edges.modify first.1 (Edge.leaveBy first.2)).modify second.1 (Edge.leaveBy second.2) := by
  cases places : exitPlaces ids edges b with
  | nil => simp [settleBranch, chosen?, places]
  | cons i rest =>
    cases rest with
    | nil => simp [settleBranch, chosen?, places]
    | cons j more =>
      cases more with
      | cons k others => simp [settleBranch, chosen?, places]
      | nil =>
        have inside : i ∈ exitPlaces ids edges b ∧ j ∈ exitPlaces ids edges b := by simp [places]
        obtain ⟨first, here, -⟩ := mem_exitPlaces.1 inside.1
        obtain ⟨second, here', -⟩ := mem_exitPlaces.1 inside.2
        rw [chosen?_pair places here here']
        simp only [settleBranch, places, here, here']
        cases assignExits nodes first second with
        | none => rfl
        | some exits => simp [setExit_eq_modify]

/-- The exit that a branch gives to the edge at a place. -/
def exitAt? (nodes : List Node) (ids : List String) (b : String) (edges : List Edge) (p : Nat) :
    Option Exit :=
  match chosen? nodes ids b edges with
  | none => none
  | some (first, second) =>
    if p = first.1 then some first.2 else if p = second.1 then some second.2 else none

theorem exitAt?_of_chosen?_none {edges : List Edge} {b : String}
    (h : chosen? nodes ids b edges = none) (p : Nat) : exitAt? nodes ids b edges p = none := by
  rw [exitAt?, h]

theorem mem_exitPlaces_of_exitAt? {edges : List Edge} {b : String} {p : Nat} {exit : Exit}
    (h : exitAt? nodes ids b edges p = some exit) : p ∈ exitPlaces ids edges b := by
  unfold exitAt? at h
  split at h
  · cases h
  · next chosen =>
    obtain ⟨places, -⟩ := chosen?_eq_some chosen
    rw [places]
    split at h
    · next same => simp [same]
    · split at h
      · next same => simp [same]
      · cases h

theorem exitAt?_of_source_ne {edges : List Edge} {b : String} {p : Nat} {e : Edge}
    (here : edges[p]? = some e) (other : e.source ≠ b) : exitAt? nodes ids b edges p = none := by
  cases found : exitAt? nodes ids b edges p with
  | none => rfl
  | some exit =>
    exact absurd (source_of_mem_exitPlaces (mem_exitPlaces_of_exitAt? found) here) other

theorem getElem?_settleBranch (nodes : List Node) (ids : List String) (b : String)
    (edges : List Edge) (p : Nat) :
    (settleBranch nodes ids b edges).1[p]? =
      edges[p]?.map fun e => e.leave (exitAt? nodes ids b edges p) := by
  rw [settleBranch_eq, exitAt?]
  cases chosen : chosen? nodes ids b edges with
  | none => simp [Edge.leave]
  | some pair =>
    obtain ⟨first, second⟩ := pair
    obtain ⟨places, -⟩ := chosen?_eq_some chosen
    have apart : first.1 ≠ second.1 := ne_of_exitPlaces places
    simp only [List.getElem?_modify]
    by_cases one : first.1 = p
    · subst one
      cases edges[first.1]? <;> simp [apart.symm, Edge.leave]
    · by_cases two : second.1 = p
      · subst two
        cases edges[second.1]? <;> simp [apart.symm, one, Edge.leave]
      · cases edges[p]? <;> simp [one, two, Ne.symm one, Ne.symm two, Edge.leave]

theorem map_bare_settleBranch (nodes : List Node) (ids : List String) (b : String)
    (edges : List Edge) :
    (settleBranch nodes ids b edges).1.map Edge.bare = edges.map Edge.bare := by
  refine List.ext_getElem? fun p => ?_
  rw [List.getElem?_map, getElem?_settleBranch, List.getElem?_map, Option.map_map]
  congr 1
  funext e
  exact Edge.bare_leave e _

/-! ### What stays settled -/

/-- The two exits that a branch gives are different ones. -/
theorem ne_of_assignExits {first second : Edge} {reason : ExitReason} {a c : Exit}
    (h : assignExits nodes first second = some (reason, a, c)) : a ≠ c := by
  have position (h : assignExits.byPosition nodes first second = some (reason, a, c)) : a ≠ c := by
    unfold assignExits.byPosition at h
    split at h <;>
    · cases h
      decide
  unfold assignExits at h
  split at h
  · cases h
    cases a <;> decide
  · cases h
    cases c <;> decide
  · split at h
    · exact position h
    · cases h
  · exact position h

theorem assignExits_of_ne {first second : Edge} {a c : Exit} (one : first.exit? = some a)
    (two : second.exit? = some c) (apart : a ≠ c) : assignExits nodes first second = none := by
  simp [assignExits, one, two, apart]

/-- After a branch has settled its exits it has nothing more to choose. -/
theorem chosen?_settleBranch_self (nodes : List Node) (ids : List String) (b : String)
    (edges : List Edge) :
    chosen? nodes ids b (settleBranch nodes ids b edges).1 = none := by
  cases chosen : chosen? nodes ids b edges with
  | none =>
    rw [settleBranch_eq, chosen]
    exact chosen
  | some pair =>
    obtain ⟨⟨i, a⟩, ⟨j, c⟩⟩ := pair
    obtain ⟨places, first, second, reason, here, here', assigned⟩ := chosen?_eq_some chosen
    have apart : i ≠ j := ne_of_exitPlaces places
    have after : (settleBranch nodes ids b edges).1[i]? = some (first.leaveBy a) := by
      rw [getElem?_settleBranch, here, exitAt?, chosen]
      simp [Edge.leave]
    have after' : (settleBranch nodes ids b edges).1[j]? = some (second.leaveBy c) := by
      rw [getElem?_settleBranch, here', exitAt?, chosen]
      simp [Edge.leave, apart.symm]
    have same := (exitPlaces_congr ids
      (map_bare_settleBranch nodes ids b edges) b).trans places
    rw [chosen?_pair same after after',
      assignExits_of_ne (Edge.exit?_leaveBy a first) (Edge.exit?_leaveBy c second)
        (ne_of_assignExits assigned)]
    rfl

theorem chosen?_congr {edges edges' : List Edge} {b : String}
    (bare : edges'.map Edge.bare = edges.map Edge.bare)
    (same : ∀ p ∈ exitPlaces ids edges b, edges'[p]? = edges[p]?) :
    chosen? nodes ids b edges' = chosen? nodes ids b edges := by
  unfold chosen?
  rw [exitPlaces_congr ids bare]
  split
  · next i j places =>
    rw [same i (by simp [places]), same j (by simp [places])]
  · rfl

theorem chosen?_settleBranch_of_ne {b b' : String} (other : b ≠ b') (edges : List Edge) :
    chosen? nodes ids b' (settleBranch nodes ids b edges).1 = chosen? nodes ids b' edges := by
  refine chosen?_congr (map_bare_settleBranch nodes ids b edges) fun p mem => ?_
  obtain ⟨e, here, source, -⟩ := mem_exitPlaces.1 mem
  rw [getElem?_settleBranch, here, exitAt?_of_source_ne here (source ▸ Ne.symm other)]
  rfl

theorem chosen?_settleBranch_of_none {b b' : String} {edges : List Edge}
    (h : chosen? nodes ids b' edges = none) :
    chosen? nodes ids b' (settleBranch nodes ids b edges).1 = none := by
  by_cases same : b = b'
  · subst same
    exact chosen?_settleBranch_self nodes ids b edges
  · rw [chosen?_settleBranch_of_ne same]
    exact h

/-! ### All branches -/

theorem settleBranches_cons (nodes : List Node) (ids : List String) (b : String) (bs : List String)
    (edges : List Edge) :
    (settleBranches nodes ids (b :: bs) edges).1 =
      (settleBranches nodes ids bs (settleBranch nodes ids b edges).1).1 := rfl

theorem map_bare_settleBranches (nodes : List Node) (ids bs : List String) (edges : List Edge) :
    (settleBranches nodes ids bs edges).1.map Edge.bare = edges.map Edge.bare := by
  induction bs generalizing edges with
  | nil => rfl
  | cons b bs ih => rw [settleBranches_cons, ih, map_bare_settleBranch]

theorem chosen?_settleBranches {bs : List String} {b : String} {edges : List Edge}
    (h : b ∈ bs ∨ chosen? nodes ids b edges = none) :
    chosen? nodes ids b (settleBranches nodes ids bs edges).1 = none := by
  induction bs generalizing edges with
  | nil => exact h.resolve_left List.not_mem_nil
  | cons b' bs ih =>
    rw [settleBranches_cons]
    refine ih ?_
    rcases h with mem | none
    · rcases List.mem_cons.1 mem with rfl | later
      · exact .inr (chosen?_settleBranch_self nodes ids b edges)
      · exact .inl later
    · exact .inr (chosen?_settleBranch_of_none none)

theorem settleBranches_eq_self {bs : List String} {edges : List Edge}
    (h : ∀ b ∈ bs, chosen? nodes ids b edges = none) :
    (settleBranches nodes ids bs edges).1 = edges := by
  induction bs with
  | nil => rfl
  | cons b bs ih =>
    obtain ⟨here, later⟩ := List.forall_mem_cons.1 h
    have same : (settleBranch nodes ids b edges).1 = edges := by rw [settleBranch_eq, here]
    rw [settleBranches_cons, same]
    exact ih later

/-- Settling all exits once more changes nothing. -/
theorem settleBranches_again (nodes : List Node) (ids bs : List String) (edges : List Edge) :
    (settleBranches nodes ids bs (settleBranches nodes ids bs edges).1).1 =
      (settleBranches nodes ids bs edges).1 :=
  settleBranches_eq_self fun _ mem => chosen?_settleBranches (.inl mem)

/-- The edge at a place gets what its own branch gives it. -/
theorem getElem?_settleBranches {bs : List String} {edges : List Edge} {p : Nat} {e : Edge}
    (here : edges[p]? = some e) :
    (settleBranches nodes ids bs edges).1[p]? =
      some (e.leave (if e.source ∈ bs then exitAt? nodes ids e.source edges p else none)) := by
  induction bs generalizing edges e with
  | nil => simpa [settleBranches, Edge.leave] using here
  | cons b bs ih =>
    have step : (settleBranch nodes ids b edges).1[p]? =
        some (e.leave (exitAt? nodes ids b edges p)) := by
      rw [getElem?_settleBranch, here]
      rfl
    rw [settleBranches_cons, ih step, Edge.source_leave]
    by_cases own : e.source = b
    · subst own
      have done : exitAt? nodes ids e.source (settleBranch nodes ids e.source edges).1 p = none :=
        exitAt?_of_chosen?_none (chosen?_settleBranch_self nodes ids e.source edges) p
      simp [done, Edge.leave]
    · have untouched : exitAt? nodes ids b edges p = none := exitAt?_of_source_ne here own
      have same : exitAt? nodes ids e.source (settleBranch nodes ids b edges).1 p =
          exitAt? nodes ids e.source edges p := by
        rw [exitAt?, exitAt?, chosen?_settleBranch_of_ne (Ne.symm own)]
      simp [untouched, same, own, Edge.leave]

theorem map_bare_settleExits (w : Workflow) :
    (settleExits w).1.map Edge.bare = w.edges.map Edge.bare :=
  map_bare_settleBranches _ _ _ _

end Repair

end WorkflowRepair
