import Mathlib.Algebra.BigOperators.Group.Finset.Basic
import Mathlib.Algebra.BigOperators.Group.Finset.Piecewise
import Mathlib.Algebra.GroupWithZero.Nat
import Mathlib.Algebra.Order.BigOperators.Group.List
import Mathlib.Algebra.Order.Group.Nat
import WorkflowRepair.Proofs.Template.Rereading
import WorkflowRepair.Proofs.Validation.Counts

/-!
How often the rules on names and references are found broken in a generated workflow. Of labels only
the normal forms count, with how many nodes have them: those that begin like an id of the system
node by node, those that are shared once each. A reference counts once in every text.
-/

namespace WorkflowRepair.Validation

variable {nodes : List Node} {edges : List Edge} {found : List Finding}

/-- The normal labels of nodes, one for each node that has a label. -/
def normals (nodes : List Node) : List String :=
  (nodes.filter Node.isLabelled).map fun n => Template.normalLabel n.label

/-- The normal labels of several nodes. -/
def shared (labels : List String) : Finset String := labels.toFinset.filter (2 ≤ labels.count ·)

theorem length_idsLabelled_eq (label : String) :
    (idsLabelled nodes label).length = (normals nodes).count label := by
  rw [idsLabelled, List.length_map, ← List.countP_eq_length_filter, normals, List.count_eq_countP,
    List.countP_map, List.countP_filter]
  exact List.countP_congr fun n _ => by simp [and_comm]

/-- The passes over names are the only ones to find rules on names broken. -/
theorem times_naming {rule : Rule}
    (own : rule = .missingLabel ∨ rule = .reservedLabel ∨ rule = .duplicateLabel)
    (run : findings .generated nodes edges = .ok found) :
    times rule found = times rule (namingFindings (soundNodes [] nodes)) := by
  have other : rule ≠ .noNodes ∧ rule ∉ [Rule.noInput, .noOutput] := by
    rcases own with rfl | rfl | rfl <;> decide
  by_cases given : nodes = []
  · subst given
    rw [times_of_no_nodes run other.1]
    rfl
  · have alone (settings : List Finding) :
        (passes .generated nodes edges settings).filter (rule ∈ ·.1) =
          [([.unknownType, .missingLabel, .reservedLabel, .duplicateLabel, .noInput, .noOutput],
            namingFindings (soundNodes [] nodes) ++ presenceFindings (soundNodes [] nodes))] := by
      rcases own with rfl | rfl | rfl <;> rfl
    rw [times_of_pass given run alone, times_append,
      (reports_presence _).times_eq_zero other.2, Nat.add_zero]

theorem reports_label (n : Node) : Reports [.unknownType, .missingLabel] (labelFindings n) := by
  refine .append (.ite (fun _ => .one ?_) fun _ => .nil) (.ite (fun _ => .nil) fun _ => .one ?_)
  · simp
  · simp

theorem reports_sharedLabel (nodes : List Node) (label : String) :
    Reports [.reservedLabel, .duplicateLabel] (sharedLabelFindings nodes label) := by
  refine .append (.ite (fun _ => .map fun _ _ => ?_) fun _ => .nil) ?_
  · simp
  · split
    · exact .one (by simp)
    · exact .nil

theorem sum_map_ite {α : Type} (p : α → Bool) (f : α → Nat) (items : List α) :
    (items.map fun a => if p a then f a else 0).sum = ((items.filter p).map f).sum := by
  induction items with
  | nil => rfl
  | cons a rest ih =>
    rw [List.map_cons, List.sum_cons, ih, List.filter_cons]
    split
    · rw [List.map_cons, List.sum_cons]
    · rw [Nat.zero_add]

theorem sum_map_one {α : Type} (items : List α) : (items.map fun _ => 1).sum = items.length := by
  rw [List.map_const', List.sum_replicate_nat, Nat.mul_one]

theorem times_missingLabel :
    times .missingLabel (namingFindings nodes) = nodes.countP (! ·.isLabelled) := by
  have each (n : Node) :
      times .missingLabel (labelFindings n) = if (!n.isLabelled) = true then 1 else 0 := by
    rw [labelFindings, times_append]
    cases n.kind.isNone <;> cases n.isLabelled <;> rfl
  have later := (Reports.flatMap fun label (_ : label ∈ normalLabels nodes) =>
    reports_sharedLabel nodes label).times_eq_zero
      (by decide : Rule.missingLabel ∉ [Rule.reservedLabel, .duplicateLabel])
  rw [namingFindings, times_append, later, Nat.add_zero, times_flatMap]
  simp only [each]
  exact (sum_map_ite (! ·.isLabelled) (fun _ => 1) nodes).trans
    ((sum_map_one _).trans List.countP_eq_length_filter.symm)

/-- On shared and reserved labels something is found label by label. -/
theorem times_sharedLabels {rule : Rule} (own : rule = .reservedLabel ∨ rule = .duplicateLabel) :
    times rule (namingFindings nodes) =
      ((normals nodes).eraseDups.map fun label =>
        times rule (sharedLabelFindings nodes label)).sum := by
  have first := (Reports.flatMap fun n (_ : n ∈ nodes) => reports_label n).times_eq_zero
    (by rcases own with rfl | rfl <;> decide : rule ∉ [Rule.unknownType, .missingLabel])
  rw [namingFindings, times_append, first, Nat.zero_add, times_flatMap]
  rfl

theorem times_sharedLabel (label : String) :
    times .reservedLabel (sharedLabelFindings nodes label) =
        (if isReserved label then (normals nodes).count label else 0) ∧
      times .duplicateLabel (sharedLabelFindings nodes label) =
        if 2 ≤ (normals nodes).count label then 1 else 0 := by
  rw [times, times, rules_sharedLabels, length_idsLabelled_eq]
  constructor
  · split <;> split <;> simp
  · split <;> split <;> simp [List.count_replicate]

theorem times_reservedLabel :
    times .reservedLabel (namingFindings nodes) = (normals nodes).countP isReserved := by
  have once : (normals nodes).eraseDups.Perm (normals nodes).dedup :=
    (List.perm_ext_iff_of_nodup (nodup_eraseDups _) (List.nodup_dedup _)).2 fun label => by
      rw [List.mem_eraseDups, List.mem_dedup]
  rw [times_sharedLabels (.inl rfl), ← List.sum_map_count_dedup_filter_eq_countP]
  simp only [times_sharedLabel]
  rw [sum_map_ite isReserved]
  exact ((once.filter _).map _).sum_eq

theorem times_duplicateLabel :
    times .duplicateLabel (namingFindings nodes) = (shared (normals nodes)).card := by
  have tests := sum_map_ite (fun label => decide (2 ≤ (normals nodes).count label)) (fun _ => 1)
    (normals nodes).eraseDups
  have once : ((normals nodes).eraseDups.filter
      fun label => 2 ≤ (normals nodes).count label).toFinset = shared (normals nodes) := by
    ext label
    simp [shared]
  simp only [decide_eq_true_eq] at tests
  rw [times_sharedLabels (.inr rfl)]
  simp only [times_sharedLabel]
  rw [tests, sum_map_one, ← once, List.toFinset_card_of_nodup ((nodup_eraseDups _).filter _)]

theorem mem_shared {label : String} {labels : List String} :
    label ∈ shared labels ↔ 2 ≤ labels.count label := by
  rw [shared, Finset.mem_filter, List.mem_toFinset]
  refine and_iff_right_of_imp fun several => List.count_pos_iff.1 ?_
  omega

/-- One more label is shared only when it was that of one node. -/
theorem shared_cons {label : String} {labels : List String} (other : labels.count label ≠ 1) :
    shared (label :: labels) = shared labels := by
  ext l
  rw [mem_shared, mem_shared, List.count_cons]
  split
  · next same =>
    rw [← beq_iff_eq.1 same]
    omega
  · rw [Nat.add_zero]

theorem shared_perm {labels labels' : List String} (listed : labels'.Perm labels) :
    shared labels' = shared labels := by
  ext label
  rw [mem_shared, mem_shared, listed.count_eq]

/-- Labels of their own of which none was that of a single node are not shared. -/
theorem shared_append {new labels : List String} (once : new.Nodup)
    (other : ∀ label ∈ new, labels.count label ≠ 1) : shared (new ++ labels) = shared labels := by
  induction new with
  | nil => rfl
  | cons label rest ih =>
    obtain ⟨fresh, later⟩ := List.nodup_cons.1 once
    obtain ⟨here, others⟩ := List.forall_mem_cons.1 other
    rw [List.cons_append, shared_cons, ih later others]
    rwa [List.count_append, List.count_eq_zero_of_not_mem fresh, Nat.zero_add]

/-! ### References -/

/-- How many references in a text are not resolved. -/
def unresolvedIn (nodes : List Node) (text : String) : Nat :=
  (Template.references text).countP fun r => !resolves nodes r.name

/-- How many references in the data of a node are not resolved. -/
def unresolvedOf (nodes : List Node) (data : Members) : Nat :=
  (data.texts.map (unresolvedIn nodes)).sum

/-- Where no fewer names are resolved, no more references are not. -/
theorem unresolvedOf_le {nodes' : List Node}
    (known : ∀ name, resolves nodes name = true → resolves nodes' name = true) (data : Members) :
    unresolvedOf nodes' data ≤ unresolvedOf nodes data := by
  refine List.sum_le_sum fun text _ => List.countP_mono_left fun r _ unknown => ?_
  simp only [Bool.not_eq_true'] at unknown ⊢
  exact Bool.eq_false_iff.2 fun still => Bool.eq_false_iff.1 unknown (known r.name still)

theorem times_unresolved (run : findings .generated nodes edges = .ok found) :
    times .unresolvedReference found = ((soundNodes [] nodes).map fun n =>
      unresolvedOf (soundNodes [] nodes) n.data).sum := by
  have field (id : String) (field : TextField) : times .unresolvedReference
      (fieldReferenceFindings (soundNodes [] nodes) id field) =
        unresolvedIn (soundNodes [] nodes) field.value := by
    have alone : Reports [.unresolvedReference]
        (fieldReferenceFindings (soundNodes [] nodes) id field) := .map fun _ _ => by simp
    rw [times_eq_length, alone.filter_eq_self, fieldReferenceFindings, List.length_map,
      unresolvedIn, List.countP_eq_length_filter]
  have data (n : Node) : times .unresolvedReference ((TextField.templates n.data).flatMap
      (fieldReferenceFindings (soundNodes [] nodes) n.id)) =
        unresolvedOf (soundNodes [] nodes) n.data := by
    rw [TextField.flatMap_templates fun field none => by simp [fieldReferenceFindings, none],
      times_flatMap, unresolvedOf, ← TextField.values_all, List.map_map]
    simp only [field]
    rfl
  by_cases given : nodes = []
  · subst given
    rw [times_of_no_nodes run (by decide)]
    rfl
  · rw [times_of_pass given run fun _ => rfl]
    show times .unresolvedReference (referenceFindings _) = _
    rw [referenceFindings, times_flatMap]
    simp only [data]

/-! ### Reports -/

/-- A report counts the rules on names as often as the nodes break them. -/
structure CountsNames (report : Report) (nodes : List Node) : Prop where
  missing : report.codes.count "FFV-NODE-003" = nodes.countP (! ·.isLabelled)
  shared : report.codes.count "FFV-NODE-004" = (shared (normals nodes)).card
  reserved : report.codes.count "FFV-NODE-005" = (normals nodes).countP isReserved
  unresolved : report.codes.count "FFV-VAR-001" =
    (nodes.map fun n => unresolvedOf nodes n.data).sum

/-- The report on a generated workflow in which nothing is wrong with the identities of nodes. -/
theorem countsNames_of_report {catalog : Catalog} {w : Workflow} {report : Report}
    (run : Validator.reportOn ⟨catalog, .generated⟩ w = .ok report)
    (sound : identityFindings [] w.nodes = []) : CountsNames report w.nodes := by
  obtain ⟨found, ran, counts⟩ := Validator.counts_of_report run
  have kept : soundNodes [] w.nodes = w.nodes := soundNodes_eq_self sound
  refine ⟨(counts .missingLabel).trans ?_, (counts .duplicateLabel).trans ?_,
    (counts .reservedLabel).trans ?_, (counts .unresolvedReference).trans ?_⟩
  · rw [times_naming (.inl rfl) ran, times_missingLabel, kept]
  · rw [times_naming (.inr (.inr rfl)) ran, times_duplicateLabel, kept]
  · rw [times_naming (.inr (.inl rfl)) ran, times_reservedLabel, kept]
  · rw [times_unresolved ran, kept]

end WorkflowRepair.Validation
