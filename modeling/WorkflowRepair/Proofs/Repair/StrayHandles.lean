import WorkflowRepair.Proofs.Repair.BothExits
import WorkflowRepair.Proofs.Validation.Counts

/-!
Stray handles after the settling of exits. A node of kind branch gives its two edges handles even
where another node has its id. The validation goes by the first node of sound identity, and where
that one is no branch it finds as many more stray handles as there were edges without one; nowhere
else are there more, and where no id is given twice there are as many as before.
-/

namespace WorkflowRepair

/-- A test that lets pass what another one does passes no more items just when both pass the same
ones. -/
theorem countP_le_countP_iff {α : Type} {p q : α → Bool} {items : List α}
    (weaker : ∀ a ∈ items, p a = true → q a = true) :
    items.countP q ≤ items.countP p ↔ ∀ a ∈ items, q a = true → p a = true := by
  constructor
  · intro le a mem passed
    have within : (items.filter p).Sublist (items.filter q) := by
      have both : items.filter p = (items.filter q).filter p := by
        rw [List.filter_filter]
        refine List.filter_congr fun b here => ?_
        cases first : p b with
        | false => rfl
        | true => rw [weaker b here first]; rfl
      rw [both]
      exact List.filter_sublist
    rw [List.countP_eq_length_filter, List.countP_eq_length_filter] at le
    have inside : a ∈ items.filter q := List.mem_filter.2 ⟨mem, passed⟩
    rw [← within.eq_of_length_le le] at inside
    exact (List.mem_filter.1 inside).2
  · exact fun same => List.countP_mono_left same

theorem Edge.hasHandle_leave (e : Edge) (exit : Option Exit) :
    (e.leave exit).hasHandle = (exit.isSome || e.hasHandle) := by
  rcases exit with - | - | -
  · rfl
  · rfl
  · rfl

namespace Repair

open Validation

/-- The edge leads between two of the nodes, and the first with the id that it leaves is no
branch. -/
structure LeavesOther (nodes : List Node) (e : Edge) : Prop where
  source : e.source ∈ nodes.map Node.id
  target : e.target ∈ nodes.map Node.id
  other : hasKind nodes e.source .branch = false

theorem leavesOther_iff {nodes : List Node} {e : Edge} : LeavesOther nodes e ↔
    e.source ∈ nodes.map Node.id ∧ e.target ∈ nodes.map Node.id ∧
      hasKind nodes e.source .branch = false :=
  ⟨fun ⟨source, target, other⟩ => ⟨source, target, other⟩,
    fun ⟨source, target, other⟩ => ⟨source, target, other⟩⟩

instance (nodes : List Node) : DecidablePred (LeavesOther nodes) := fun _ =>
  decidable_of_iff' _ leavesOther_iff

theorem leavesOther_congr {nodes : List Node} {e e' : Edge} (bare : e'.bare = e.bare) :
    LeavesOther nodes e' ↔ LeavesOther nodes e := by
  rw [leavesOther_iff, leavesOther_iff, Edge.source_eq_of_bare bare, Edge.target_eq_of_bare bare]

theorem times_strayHandle_eq {profile : Profile} {nodes : List Node} {edges : List Edge}
    {found : List Finding} (run : findings profile nodes edges = .ok found) :
    times .strayHandle found =
      edges.countP fun e => e.hasHandle && LeavesOther (soundNodes [] nodes) e := by
  have given : ∀ n ∈ soundNodes [] nodes, n.id ≠ "" :=
    fun n mem => (identified_of_mem_soundNodes mem).id
  rw [times_strayHandle run, soundEdges_eq_filter given, List.countP_filter]
  refine List.countP_congr fun e _ => ?_
  simp only [isStray, leavesOther_iff, Bool.and_eq_true, Bool.not_eq_true', decide_eq_true_eq]
  tauto

variable {w : Workflow}

/-- The exit that the edge gets, unless it keeps what it has. -/
def givenExit? (w : Workflow) (e : Edge) (p : Nat) : Option Exit :=
  if e.source ∈ branchIds w then exitAt? w.nodes w.nodeIds e.source w.edges p else none

theorem settleExits_eq_zipIdx (w : Workflow) : (settleExits w).1 =
    w.edges.zipIdx.map fun entry => entry.1.leave (givenExit? w entry.1 entry.2) := by
  refine List.ext_getElem? fun p => ?_
  rw [List.getElem?_map, List.getElem?_zipIdx, Option.map_map]
  cases here : w.edges[p]? with
  | none =>
    have bare := congrArg (·[p]?) (map_bare_settleExits w)
    simpa [here] using bare
  | some e =>
    rw [getElem?_settleExits here]
    simp [givenExit?]

theorem hasHandle_settled {n : Node} (mem : n ∈ w.nodes) (branch : n.isKind .branch = true)
    {i j p : Nat} (two : TwoExits w n.id i j) (place : p = i ∨ p = j) :
    ∃ e, (settleExits w).1[p]? = some e ∧ e.hasHandle = true := by
  obtain ⟨_, _, first, second, -, -, one, other, parted⟩ := parted_settleExits mem branch two
  have handles : first.hasHandle = true ∧ second.hasHandle = true := by
    rcases parted.both with ⟨a, b⟩ | ⟨a, b⟩ <;> simp [hasHandle_iff, a, b]
  rcases place with rfl | rfl
  · exact ⟨first, one, handles.1⟩
  · exact ⟨second, other, handles.2⟩

/-- An edge without a handle gets an exit just when it is one of the two edges of a branch. -/
theorem isSome_givenExit?_iff {e : Edge} {p : Nat} (here : w.edges[p]? = some e)
    (plain : e.hasHandle = false) : (givenExit? w e p).isSome = true ↔
      ∃ n ∈ w.nodes, n.isKind .branch = true ∧ ∃ i j, TwoExits w n.id i j ∧ (p = i ∨ p = j) := by
  constructor
  · intro given
    obtain ⟨exit, given⟩ := Option.isSome_iff_exists.1 given
    unfold givenExit? at given
    split at given
    · next known =>
      obtain ⟨n, mem, branch, source⟩ := mem_branchIds.1 known
      rw [← source] at given
      exact ⟨n, mem, branch, twoExits_of_exitAt? given⟩
    · cases given
  · rintro ⟨n, mem, branch, i, j, two, place⟩
    obtain ⟨e', settled, handle⟩ := hasHandle_settled mem branch two place
    rw [getElem?_settleExits here, Option.some_inj] at settled
    rwa [← settled, Edge.hasHandle_leave, plain, Bool.or_false] at handle

/-- The edges of branches that, as the validation has it, leave a node of another kind had a handle
before. -/
def HandledBefore (w : Workflow) : Prop :=
  ∀ n ∈ w.nodes, n.isKind .branch = true → ∀ i j, TwoExits w n.id i j → ∀ p, p = i ∨ p = j →
    ∀ e, w.edges[p]? = some e → LeavesOther (soundNodes [] w.nodes) e → e.hasHandle = true

theorem handledBefore_of_unrepeated (once : Unrepeated w.nodes) : HandledBefore w := by
  intro n mem branch i j two p place e here leaves
  have own : e.source = n.id := by
    obtain ⟨e', here', source, -⟩ := (two.only p).2 place
    rw [here, Option.some_inj] at here'
    rw [here', source]
  obtain ⟨m, kept, same⟩ := List.mem_map.1 leaves.source
  have one : m = n := eq_of_same_id once (mem_of_mem_soundNodes kept) mem
    (identified_of_mem_soundNodes kept).id (same.trans own)
  have kind : hasKind (soundNodes [] w.nodes) e.source .branch = true :=
    (hasKind_iff (nodup_soundNodes w.nodes)).2 ⟨m, kept, same, one ▸ branch⟩
  rw [leaves.other] at kind
  cases kind

/-- Just the edges that have a handle afterwards without one before are new stray handles. -/
theorem handledBefore_iff : HandledBefore w ↔ ∀ entry ∈ w.edges.zipIdx,
    (((givenExit? w entry.1 entry.2).isSome || entry.1.hasHandle) &&
        LeavesOther (soundNodes [] w.nodes) entry.1) = true →
      (entry.1.hasHandle && LeavesOther (soundNodes [] w.nodes) entry.1) = true := by
  constructor
  · rintro handled ⟨e, p⟩ entry passed
    have here : w.edges[p]? = some e := List.mem_zipIdx_iff_getElem?.1 entry
    simp only [Bool.and_eq_true, Bool.or_eq_true] at passed ⊢
    obtain ⟨given, other⟩ := passed
    refine ⟨?_, other⟩
    by_contra plain
    rw [Bool.not_eq_true] at plain
    obtain ⟨n, mem, branch, i, j, two, place⟩ :=
      (isSome_givenExit?_iff here plain).1 (given.resolve_right (by simp [plain]))
    rw [handled n mem branch i j two p place e here (of_decide_eq_true other)] at plain
    cases plain
  · intro same n mem branch i j two p place e here other
    by_contra plain
    rw [Bool.not_eq_true] at plain
    have given := (isSome_givenExit?_iff here plain).2 ⟨n, mem, branch, i, j, two, place⟩
    have handle := same (e, p) (List.mem_zipIdx_iff_getElem?.2 here) (by simpa [given] using other)
    simp [plain] at handle

section Settled

variable {before after : List Finding} {profile : Profile}

theorem strays_before (run : findings profile w.nodes w.edges = .ok before) :
    times .strayHandle before = w.edges.zipIdx.countP fun entry =>
      entry.1.hasHandle && LeavesOther (soundNodes [] w.nodes) entry.1 := by
  rw [times_strayHandle_eq run]
  conv_lhs => rw [← List.zipIdx_map_fst 0 w.edges, List.countP_map]
  rfl

theorem strays_after (run : findings profile w.nodes (settleExits w).1 = .ok after) :
    times .strayHandle after = w.edges.zipIdx.countP fun entry =>
      ((givenExit? w entry.1 entry.2).isSome || entry.1.hasHandle) &&
        LeavesOther (soundNodes [] w.nodes) entry.1 := by
  rw [times_strayHandle_eq run, settleExits_eq_zipIdx, List.countP_map]
  refine List.countP_congr fun entry _ => ?_
  simp [Edge.hasHandle_leave, leavesOther_congr (Edge.bare_leave entry.1 _)]

theorem strays_settled (run : findings profile w.nodes w.edges = .ok before)
    (run' : findings profile w.nodes (settleExits w).1 = .ok after) :
    times .strayHandle before ≤ times .strayHandle after ∧
      (times .strayHandle after ≤ times .strayHandle before ↔ HandledBefore w) := by
  have weaker : ∀ entry ∈ w.edges.zipIdx,
      (entry.1.hasHandle && LeavesOther (soundNodes [] w.nodes) entry.1) = true →
        (((givenExit? w entry.1 entry.2).isSome || entry.1.hasHandle) &&
          LeavesOther (soundNodes [] w.nodes) entry.1) = true := by
    simp only [Bool.and_eq_true, Bool.or_eq_true]
    exact fun _ _ ⟨handle, other⟩ => ⟨.inr handle, other⟩
  rw [strays_before run, strays_after run', handledBefore_iff]
  exact ⟨List.countP_mono_left weaker, countP_le_countP_iff weaker⟩

end Settled

/-- After the exits are settled there is a report wherever there was one before. It has no more
stray handles exactly when every edge that the validation will find to have one had one before; so
it has as many where no id is given twice. -/
theorem settleExits_strays_iff {v : Validator} {report : Report} (run : v.reportOn w = .ok report) :
    ∃ report', v.reportOn { w with edges := (settleExits w).1 } = .ok report' ∧
      (report'.codes.count "FFV-BRANCH-003" ≤ report.codes.count "FFV-BRANCH-003" ↔
        HandledBefore w) ∧
      (Unrepeated w.nodes →
        report'.codes.count "FFV-BRANCH-003" = report.codes.count "FFV-BRANCH-003") := by
  have examinable : Examinable v.profile w.nodes := reportOn_ok_iff.1 ⟨report, run⟩
  obtain ⟨report', run'⟩ : ∃ report', v.reportOn { w with edges := (settleExits w).1 } =
      .ok report' := reportOn_ok_iff.2 examinable
  obtain ⟨before, found, counts⟩ := Validator.counts_of_report run
  obtain ⟨after, found', counts'⟩ := Validator.counts_of_report run'
  obtain ⟨more, few⟩ := strays_settled found found'
  rw [← counts, ← counts'] at more few
  refine ⟨report', run', few, fun once => ?_⟩
  exact le_antisymm (few.2 (handledBefore_of_unrepeated once)) more

/-- A branch with a handle at one of its edges only, beside a tool with a stray handle. -/
def halfHandled : Workflow :=
  { nodes := [{ id := "c", type := "branch" }, { id := "x", type := "tool" },
      { id := "y", type := "tool" }]
    edges := [{ source := "c", target := "x" },
      { source := "c", target := "y", sourceHandle := .str "true" },
      { source := "x", target := "y", sourceHandle := .str "true" }] }

theorem settleExits_strays_iff_halfHandled :
    ∃ report report', Validator.reportOn {} halfHandled = .ok report ∧
      Validator.reportOn {} { halfHandled with edges := (settleExits halfHandled).1 } =
        .ok report' ∧
      report.codes.count "FFV-BRANCH-003" = 1 ∧ report'.codes.count "FFV-BRANCH-003" = 1 ∧
      (settleExits halfHandled).1 ≠ halfHandled.edges := by
  obtain ⟨found, ran, -⟩ := structural_findings halfHandled.nodes halfHandled.edges
  have run : Validator.reportOn {} halfHandled = .ok ⟨found.map Catalog.standard.issueOf⟩ := by
    simp only [Validator.reportOn, Validator.report, ran]
  have one : (Report.codes ⟨found.map Catalog.standard.issueOf⟩).count "FFV-BRANCH-003" = 1 := by
    have codes : (Validator.reportOn {} halfHandled).toOption.map
        (fun report => report.codes.count "FFV-BRANCH-003") = some 1 := by
      decide +kernel
    rw [run] at codes
    exact Option.some.inj codes
  obtain ⟨report', run', -, same⟩ := settleExits_strays_iff run
  exact ⟨_, report', run, run', one, (same (by decide +kernel)).trans one, by decide +kernel⟩

/-- Two nodes with one id, the second of which is a branch. -/
def shadowed : Workflow :=
  { nodes := [{ id := "x", type := "tool" }, { id := "x", type := "branch" },
      { id := "a", type := "tool" }, { id := "b", type := "tool" }]
    edges := [{ source := "x", target := "a", givenId := some "e1" },
      { source := "x", target := "b", givenId := some "e2" }] }

/-- Both edges of the branch get handles, which are stray at the tool that has its id. -/
theorem strays_of_shadowed :
    (Validator.reportOn {} shadowed).toOption.map
        (fun report => report.codes.count "FFV-BRANCH-003") = some 0 ∧
      (Validator.reportOn {} { shadowed with edges := (settleExits shadowed).1 }).toOption.map
        (fun report => report.codes.count "FFV-BRANCH-003") = some 2 := by
  decide +kernel

end Repair

end WorkflowRepair
