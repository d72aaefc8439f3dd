import Mathlib.Algebra.GroupWithZero.Nat
import Mathlib.Data.Finset.Card
import WorkflowRepair.Proofs.Validation.Listing

/-!
How often a report has the code of a rule. That is how often the rule is found broken, by the passes
that can report it alone: as often as there are edges with a stray handle, and as often as an edge
has the ends of an earlier one.
-/

namespace WorkflowRepair

namespace Validation

/-- How often a rule is found broken. -/
def times (rule : Rule) (found : List Finding) : Nat := (found.map Finding.rule).count rule

variable {rule : Rule} {rules : List Rule} {found found' : List Finding}

theorem times_append : times rule (found ++ found') = times rule found + times rule found' := by
  rw [times, List.map_append, List.count_append]
  rfl

theorem times_flatMap {α : Type} {items : List α} {check : α → List Finding} :
    times rule (items.flatMap check) = (items.map fun a => times rule (check a)).sum := by
  rw [times, List.map_flatMap, List.count_flatMap]
  rfl

theorem times_eq_length : times rule found = (found.filter (·.rule = rule)).length := by
  rw [times, List.count_eq_countP, List.countP_map, List.countP_eq_length_filter]
  rfl

theorem times_eq_zero_iff : times rule found = 0 ↔ ∀ f ∈ found, f.rule ≠ rule := by
  rw [times, List.count_eq_zero, List.mem_map, not_exists]
  exact forall_congr' fun f => not_and

theorem Reports.times_eq_zero (h : Reports rules found) (other : rule ∉ rules) :
    times rule found = 0 :=
  times_eq_zero_iff.2 fun f mem same => other (same ▸ h f mem)

/-- A pass that reports one rule. -/
theorem Reports.times_eq_zero_iff (h : Reports [rule] found) :
    times rule found = 0 ↔ found = [] := by
  rw [times_eq_length, h.filter_eq_self, List.length_eq_zero_iff]

end Validation

open Validation in
/-- There are as many issues with the code of a rule as the rule is found broken. -/
theorem Report.count_code (catalog : Catalog) (found : List Finding) (rule : Rule) :
    (Report.codes ⟨found.map catalog.issueOf⟩).count rule.code = times rule found := by
  rw [Report.codes_issues]
  exact List.count_map_of_injective _ _ (fun _ _ same => Rule.code_inj same) rule

open Validation in
theorem Validator.counts_of_report {v : Validator} {nodes : List Node} {edges : List Edge}
    {report : Report} (run : v.report nodes edges = .ok report) :
    ∃ found, findings v.profile nodes edges = .ok found ∧
      ∀ rule : Rule, report.codes.count rule.code = times rule found := by
  simp only [Validator.report] at run
  split at run
  · cases run
  · next found ran =>
    rw [← Except.ok.inj run]
    exact ⟨found, ran, Report.count_code v.catalog found⟩

namespace Validation

variable {profile : Profile} {nodes : List Node} {edges : List Edge} {found : List Finding}

/-- A rule is found broken by the passes that can report it. -/
theorem times_findings (given : nodes ≠ []) (run : findings profile nodes edges = .ok found)
    (rule : Rule) :
    ∃ settings, times rule found = times rule
      (((passes profile nodes edges settings).filter (rule ∈ ·.1)).flatMap Prod.snd) := by
  obtain ⟨settings, same⟩ := filter_findings given run rule
  exact ⟨settings, by rw [times_eq_length, same, ← times_eq_length]⟩

/-- Where there are no nodes at all, just that is found. -/
theorem times_of_no_nodes (run : findings profile [] edges = .ok found) (other : rule ≠ .noNodes) :
    times rule found = 0 := by
  rw [← Except.ok.inj run]
  exact (Reports.one (List.mem_singleton_self _)).times_eq_zero (by simpa using other)

/-- Where a pass alone reports a rule, it is found broken as often as the pass finds it broken. -/
theorem times_of_pass {rule : Rule} {rules : List Rule} {pass : List Finding}
    (given : nodes ≠ []) (run : findings profile nodes edges = .ok found)
    (alone : ∀ settings, (passes profile nodes edges settings).filter (rule ∈ ·.1) =
      [(rules, pass)]) : times rule found = times rule pass := by
  obtain ⟨settings, same⟩ := times_findings given run rule
  rw [same, alone, List.flatMap_singleton]

/-! ### The graph -/

theorem times_cycle_eq_zero_iff (given : nodes ≠ [])
    (run : findings profile nodes edges = .ok found) : times .cycle found = 0 ↔
      Graph.Acyclic (soundEdges (soundNodes [] nodes) edges) := by
  rw [times_of_pass given run fun _ => rfl, (reports_cycle _ _).times_eq_zero_iff,
    cycleFindings_eq_nil_iff (anchored_soundEdges nodes edges)]

theorem times_orphan_eq_zero_iff (given : nodes ≠ [])
    (run : findings profile nodes edges = .ok found) : times .orphan found = 0 ↔
      Covered (soundNodes [] nodes) (soundEdges (soundNodes [] nodes) edges) := by
  rw [times_of_pass given run fun _ => rfl, (reports_orphans _ _).times_eq_zero_iff,
    orphanFindings_eq_nil_iff]

/-- With an input and an output among the nodes neither is missed. -/
theorem times_presence {rule : Rule} (own : rule = .noInput ∨ rule = .noOutput)
    (given : nodes ≠ []) (run : findings profile nodes edges = .ok found)
    (input : (soundNodes [] nodes).any (·.isKind .input) = true)
    (output : (soundNodes [] nodes).any (·.isKind .output) = true) : times rule found = 0 := by
  have alone (settings : List Finding) :
      (passes profile nodes edges settings).filter (rule ∈ ·.1) =
        [([.unknownType, .missingLabel, .reservedLabel, .duplicateLabel, .noInput, .noOutput],
          if profile = .generated then
            namingFindings (soundNodes [] nodes) ++ presenceFindings (soundNodes [] nodes)
          else [])] := by
    rcases own with rfl | rfl <;> rfl
  have presence : presenceFindings (soundNodes [] nodes) = [] := by
    simp [presenceFindings, input, output]
  rw [times_of_pass given run alone, presence, List.append_nil]
  refine (Reports.ite (fun _ => reports_naming _) fun _ => .nil).times_eq_zero ?_
  rcases own with rfl | rfl <;> decide

/-! ### Edges -/

theorem times_edges {rule : Rule} (other : rule ∉ [Rule.edgeEnds, .unknownEndpoint]) :
    times rule (edgeFindings nodes edges) =
      times rule (connectionFindings nodes [] (soundEdges nodes edges)) := by
  rw [edgeFindings, times_append, (reports_endpoints nodes edges).times_eq_zero other, Nat.zero_add]

theorem soundEdges_no_nodes (edges : List Edge) : soundEdges [] edges = [] := by
  rw [soundEdges_eq_filter (List.forall_mem_nil _)]
  simp

/-- The passes over connections are the only ones to find edges twice and stray handles. -/
theorem times_connections {rule : Rule} (own : rule = .duplicateEdge ∨ rule = .strayHandle)
    (run : findings profile nodes edges = .ok found) :
    times rule found = times rule
      (connectionFindings (soundNodes [] nodes) [] (soundEdges (soundNodes [] nodes) edges)) := by
  have other : rule ∉ [Rule.edgeEnds, .unknownEndpoint] ∧ rule ≠ .noNodes := by
    rcases own with rfl | rfl <;> decide
  by_cases given : nodes = []
  · subst given
    rw [times_of_no_nodes run other.2, soundNodes, soundEdges_no_nodes]
    rfl
  · have alone (settings : List Finding) :
        (passes profile nodes edges settings).filter (rule ∈ ·.1) =
          [([.edgeEnds, .unknownEndpoint, .duplicateEdge, .strayHandle],
            edgeFindings (soundNodes [] nodes) edges)] := by
      rcases own with rfl | rfl <;> rfl
    rw [times_of_pass given run alone, times_edges other.1]

/-- Whether an edge has a handle that it may not have. -/
def isStray (nodes : List Node) (e : Edge) : Bool :=
  e.hasHandle && !hasKind nodes e.source .branch

theorem times_connections_cons {seen : List (String × String)} {e : Edge} {rest : List Edge} :
    times rule (connectionFindings nodes seen (e :: rest)) =
      (repeatRules seen e).count rule + (handleRules nodes e).count rule +
        times rule (connectionFindings nodes (e.pair :: seen) rest) := by
  rw [times, rules_connections_cons, List.count_append, List.count_append]
  rfl

theorem times_strayHandle_connections (seen : List (String × String)) :
    times .strayHandle (connectionFindings nodes seen edges) = edges.countP (isStray nodes) := by
  induction edges generalizing seen with
  | nil => rfl
  | cons e rest ih =>
    have twice : (repeatRules seen e).count .strayHandle = 0 := by
      unfold repeatRules
      split <;> decide
    have handle : (handleRules nodes e).count .strayHandle = if isStray nodes e then 1 else 0 := by
      unfold handleRules isStray
      split <;> decide
    rw [times_connections_cons, ih, twice, handle, List.countP_cons]
    omega

theorem times_strayHandle (run : findings profile nodes edges = .ok found) :
    times .strayHandle found =
      (soundEdges (soundNodes [] nodes) edges).countP (isStray (soundNodes [] nodes)) := by
  rw [times_connections (.inr rfl) run, times_strayHandle_connections]

/-- Each edge is found twice or has new ends. -/
theorem times_duplicateEdge_connections (nodes : List Node) (edges : List Edge)
    (seen : List (String × String)) :
    times .duplicateEdge (connectionFindings nodes seen edges) +
        ((edges.map Edge.pair).toFinset ∪ seen.toFinset).card =
      edges.length + seen.toFinset.card := by
  induction edges generalizing seen with
  | nil => simp [connectionFindings, times]
  | cons e rest ih =>
    have handle : (handleRules nodes e).count .duplicateEdge = 0 := by
      unfold handleRules
      split <;> decide
    have all : ((e :: rest).map Edge.pair).toFinset ∪ seen.toFinset =
        (rest.map Edge.pair).toFinset ∪ (e.pair :: seen).toFinset := by
      simp [Finset.insert_union, Finset.union_insert]
    have later := ih (e.pair :: seen)
    rw [times_connections_cons, handle, all, List.length_cons]
    by_cases known : e.pair ∈ seen
    · have twice : (repeatRules seen e).count .duplicateEdge = 1 := by
        simp [repeatRules, known]
      have old : (e.pair :: seen).toFinset = seen.toFinset := by simp [known]
      rw [old] at later ⊢
      omega
    · have twice : (repeatRules seen e).count .duplicateEdge = 0 := by
        simp [repeatRules, known]
      have new : (e.pair :: seen).toFinset.card = seen.toFinset.card + 1 := by simp [known]
      omega

/-- How many edges have the ends of an earlier one. -/
def repeats (edges : List Edge) : Nat := edges.length - (edges.map Edge.pair).toFinset.card

theorem card_pairs_le (edges : List Edge) :
    (edges.map Edge.pair).toFinset.card ≤ edges.length := by
  simpa using (edges.map Edge.pair).toFinset_card_le

theorem times_duplicateEdge (run : findings profile nodes edges = .ok found) :
    times .duplicateEdge found = repeats (soundEdges (soundNodes [] nodes) edges) := by
  have whole := times_duplicateEdge_connections (soundNodes [] nodes)
    (soundEdges (soundNodes [] nodes) edges) []
  rw [List.toFinset_nil, Finset.union_empty, Finset.card_empty] at whole
  rw [times_connections (.inl rfl) run, repeats]
  omega

theorem repeats_eq_zero_iff : repeats edges = 0 ↔ (edges.map Edge.pair).Nodup := by
  rw [repeats, Nat.sub_eq_zero_iff_le, ← List.length_map (f := Edge.pair), List.card_toFinset]
  refine ⟨fun le => ?_, fun once => by rw [once.dedup]⟩
  have same := (List.dedup_sublist (edges.map Edge.pair)).eq_of_length_le le
  exact same ▸ List.nodup_dedup _

theorem repeats_perm {edges' : List Edge} (linked : edges'.Perm edges) :
    repeats edges' = repeats edges := by
  rw [repeats, repeats, linked.length_eq, List.toFinset_eq_of_perm _ _ (linked.map Edge.pair)]

/-- Edges with other ends repeat none that were there. -/
theorem repeats_append {edges' : List Edge} (other : ∀ e ∈ edges', e.pair ∉ edges.map Edge.pair) :
    repeats (edges ++ edges') = repeats edges + repeats edges' := by
  have apart : Disjoint (edges.map Edge.pair).toFinset (edges'.map Edge.pair).toFinset := by
    refine Finset.disjoint_right.2 fun p inside here => ?_
    obtain ⟨e, mem, rfl⟩ := List.mem_map.1 (List.mem_toFinset.1 inside)
    exact other e mem (List.mem_toFinset.1 here)
  have le := card_pairs_le edges
  have le' := card_pairs_le edges'
  rw [repeats, repeats, repeats, List.map_append, List.toFinset_append,
    Finset.card_union_of_disjoint apart, List.length_append]
  omega

end Validation

end WorkflowRepair
