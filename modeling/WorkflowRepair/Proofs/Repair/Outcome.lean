import WorkflowRepair.Repair

/-!
The ways in which repairs end. A structural repair and a whole repair either leave a valid workflow
alone, or take back what made it worse, or let the result stand; a round of a whole repair goes
through the repairs of its two halves, before and after the structural one.
-/

namespace WorkflowRepair

theorem ok_of_toOption {ε α β : Type} {x : Except ε α} {f : α → β} {b : β}
    (h : x.toOption.map f = some b) : ∃ a, x = .ok a ∧ f a = b := by
  cases x with
  | error e => cases h
  | ok a => exact ⟨a, rfl, Option.some.inj h⟩

theorem Report.eq_nil_of_isValid {report : Report} (h : report.isValid = true) : report = ⟨[]⟩ := by
  obtain ⟨issues⟩ := report
  exact congrArg Report.mk (List.isEmpty_iff.1 h)

namespace Repair

/-- Mending the safe defects mends every flaw of an edge. -/
theorem mend_safe (w : Workflow) :
    mend w (((defects w).filter Defect.isSafe).filterMap Defect.flaw?) = mended w := by
  rw [mended, List.filterMap_filter]
  congr 2
  funext d
  cases d <;> rfl

/-- The ways in which a structural repair ends. -/
inductive StructureEnd (v : Validator) (onlyInvalid : Bool) (w : Workflow) :
    StructureOutcome → Prop
  | leftAlone {before : Report} (report : v.reportOn w = .ok before)
      (gate : onlyInvalid = true) (valid : before.isValid = true) :
      StructureEnd v onlyInvalid w { workflow := w }
  | takenBack {before after : Report} (report : v.reportOn w = .ok before)
      (again : v.reportOn (mended w) = .ok after) (worse : before.count < after.count) :
      StructureEnd v onlyInvalid w {
        workflow := w
        findings := preview w ((defects w).filter fun d => !d.isSafe)
        remaining := before.issues
        reverted := true }
  | stands {before after : Report} (report : v.reportOn w = .ok before)
      (again : v.reportOn (mended w) = .ok after) (better : after.count ≤ before.count) :
      StructureEnd v onlyInvalid w {
        workflow := mended w
        fixes := preview w ((defects w).filter Defect.isSafe)
        findings := preview w ((defects w).filter fun d => !d.isSafe)
        applied := (defects w).filter Defect.isSafe
        remaining := after.issues }

theorem structureEnd_of_fixStructure {v : Validator} {onlyInvalid : Bool} {w : Workflow}
    {o : StructureOutcome} (h : fixStructure v onlyInvalid w = .ok o) :
    StructureEnd v onlyInvalid w o := by
  unfold fixStructure at h
  cases report : v.reportOn w with
  | error fault => simp [report] at h
  | ok before =>
    simp only [report, mend_safe] at h
    by_cases gate : (onlyInvalid && before.isValid) = true
    · rw [if_pos gate] at h
      cases h
      rw [Bool.and_eq_true] at gate
      exact .leftAlone report gate.1 gate.2
    · rw [if_neg gate] at h
      cases again : v.reportOn (mended w) with
      | error fault => simp [again] at h
      | ok after =>
        simp only [again] at h
        by_cases worse : after.count > before.count
        · rw [if_pos worse] at h
          cases h
          exact .takenBack report again worse
        · rw [if_neg worse] at h
          cases h
          exact .stands report again (Nat.le_of_not_lt worse)

/-- A structural repair yields the workflow given or the mended one. -/
theorem workflow_of_fixStructure {v : Validator} {onlyInvalid : Bool} {w : Workflow}
    {o : StructureOutcome} (h : fixStructure v onlyInvalid w = .ok o) :
    o.workflow = w ∨ o.workflow = mended w := by
  cases structureEnd_of_fixStructure h with
  | leftAlone => exact .inl rfl
  | takenBack => exact .inl rfl
  | stands => exact .inr rfl

/-- A structural repair leaves the nodes as they are. -/
theorem nodes_of_fixStructure {v : Validator} {onlyInvalid : Bool} {w : Workflow}
    {o : StructureOutcome} (h : fixStructure v onlyInvalid w = .ok o) :
    o.workflow.nodes = w.nodes := by
  rcases workflow_of_fixStructure h with same | same
  · rw [same]
  · rw [same]
    rfl

/-- The first half of a round, before the structural repair. -/
def prepare (options : FixOptions) (w : Workflow) : Workflow :=
  let completed := if options.addTerminals then (complete w).workflow else w
  if options.fillUserInput then (fillUserInput completed).1 else completed

/-- What new ends and new user inputs keep is kept by the first half of a round. -/
theorem prepare_keeps {p : Workflow → Prop} (options : FixOptions) {w : Workflow} (start : p w)
    (ends : ∀ w, p w → p (complete w).workflow) (inputs : ∀ w, p w → p (fillUserInput w).1) :
    p (prepare options w) := by
  have completed : p (if options.addTerminals then (complete w).workflow else w) := by
    split
    · exact ends w start
    · exact start
  by_cases fill : options.fillUserInput = true
  · simp only [prepare, if_pos fill]
    exact inputs _ completed
  · simp only [prepare, if_neg fill]
    exact completed

/-- The second half of a round, after the structural repair. -/
def finish (policy : FuzzyPolicy) (options : FixOptions) (w : Workflow) : Workflow :=
  let healed := healReferences policy w
  let renamed := if options.renameFields then (renameFields healed).1 else healed
  { renamed with edges := (settleExits renamed).1 }

/-- A round is its first half, a structural repair and its second half. -/
theorem round_eq_ok {fixer : Fixer} {options : FixOptions} {w : Workflow} {r : Round}
    (h : round fixer options w = .ok r) :
    ∃ s, fixStructure fixer.validator false (prepare options w) = .ok s ∧
      r.workflow = finish fixer.policy options s.workflow := by
  obtain ⟨gate, addTerminals, fill, rename⟩ := options
  cases addTerminals <;> cases fill <;> cases rename <;>
  · simp only [round, Bool.false_eq_true, if_true, if_false] at h
    split at h
    · cases h
    · next s hs =>
      cases h
      exact ⟨s, hs, rfl⟩

end Repair

/-- The ways in which a repair ends. -/
inductive FixEnd (fixer : Fixer) (options : FixOptions) (w : Workflow) : FixOutcome → Prop
  | leftAlone {before : Report} (report : fixer.validator.reportOn w = .ok before)
      (gate : options.onlyInvalid = true) (valid : before.isValid = true) :
      FixEnd fixer options w { workflow := w }
  | takenBack {before after : Report} {last : Repair.Round}
      (report : fixer.validator.reportOn w = .ok before)
      (gate : (options.onlyInvalid && before.isValid) = false)
      (rounds : Repair.rounds fixer options Repair.roundLimit ⟨w, [], []⟩ = .ok last)
      (again : fixer.validator.reportOn last.workflow = .ok after)
      (worse : before.count < after.count) :
      FixEnd fixer options w {
        workflow := w
        findings := last.findings
        before := before.issues
        remaining := before.issues
        reverted := true }
  | stands {before after : Report} {last : Repair.Round}
      (report : fixer.validator.reportOn w = .ok before)
      (gate : (options.onlyInvalid && before.isValid) = false)
      (rounds : Repair.rounds fixer options Repair.roundLimit ⟨w, [], []⟩ = .ok last)
      (again : fixer.validator.reportOn last.workflow = .ok after)
      (better : after.count ≤ before.count) :
      FixEnd fixer options w {
        workflow := last.workflow
        fixes := last.fixes
        findings := last.findings
        before := before.issues
        remaining := after.issues }

theorem Fixer.fixEnd_of_fix {fixer : Fixer} {options : FixOptions} {w : Workflow} {o : FixOutcome}
    (h : fixer.fix options w = .ok o) : FixEnd fixer options w o := by
  unfold Fixer.fix at h
  cases report : fixer.validator.reportOn w with
  | error fault => simp [report] at h
  | ok before =>
    simp only [report] at h
    by_cases gate : (options.onlyInvalid && before.isValid) = true
    · rw [if_pos gate] at h
      cases h
      rw [Bool.and_eq_true] at gate
      exact .leftAlone report gate.1 gate.2
    · rw [if_neg gate] at h
      cases rounds : Repair.rounds fixer options Repair.roundLimit ⟨w, [], []⟩ with
      | error fault => simp [rounds] at h
      | ok last =>
        simp only [rounds] at h
        cases again : fixer.validator.reportOn last.workflow with
        | error fault => simp [again] at h
        | ok after =>
          simp only [again] at h
          by_cases worse : after.count > before.count
          · rw [if_pos worse] at h
            cases h
            exact .takenBack report (Bool.eq_false_iff.2 gate) rounds again worse
          · rw [if_neg worse] at h
            cases h
            exact .stands report (Bool.eq_false_iff.2 gate) rounds again
              (Nat.le_of_not_lt worse)

/-- What is said to be left after a repair is what the validator finds in the result. -/
theorem Fixer.reportOn_fix {fixer : Fixer} {options : FixOptions} {w : Workflow} {o : FixOutcome}
    (h : fixer.fix options w = .ok o) :
    fixer.validator.reportOn o.workflow = .ok ⟨o.remaining⟩ := by
  cases fixEnd_of_fix h with
  | leftAlone report gate valid =>
    rw [report, Report.eq_nil_of_isValid valid]
  | takenBack report => exact report
  | stands _ _ _ again => exact again

theorem Repair.reportOn_fixStructure {v : Validator} {onlyInvalid : Bool} {w : Workflow}
    {o : StructureOutcome} (h : fixStructure v onlyInvalid w = .ok o) :
    v.reportOn o.workflow = .ok ⟨o.remaining⟩ := by
  cases structureEnd_of_fixStructure h with
  | leftAlone report gate valid =>
    rw [report, Report.eq_nil_of_isValid valid]
  | takenBack report => exact report
  | stands _ again => exact again

/-- The issues are those that the validator finds in the result, and no more than it finds in the
workflow given. -/
structure Validator.Accounts (v : Validator) (given result : Workflow) (issues : List Issue) :
    Prop where
  found : v.reportOn result = .ok ⟨issues⟩
  noMore : ∃ before, v.reportOn given = .ok before ∧ issues.length ≤ before.count

theorem Repair.accounts_fixStructure {v : Validator} {onlyInvalid : Bool} {w : Workflow}
    {o : StructureOutcome} (h : fixStructure v onlyInvalid w = .ok o) :
    v.Accounts w o.workflow o.remaining := by
  refine ⟨reportOn_fixStructure h, ?_⟩
  cases structureEnd_of_fixStructure h with
  | leftAlone report => exact ⟨_, report, Nat.zero_le _⟩
  | takenBack report => exact ⟨_, report, Nat.le_refl _⟩
  | stands report _ better => exact ⟨_, report, better⟩

theorem Fixer.accounts_fix {fixer : Fixer} {options : FixOptions} {w : Workflow} {o : FixOutcome}
    (h : fixer.fix options w = .ok o) :
    fixer.validator.Accounts w o.workflow o.remaining := by
  refine ⟨reportOn_fix h, ?_⟩
  cases fixEnd_of_fix h with
  | leftAlone report => exact ⟨_, report, Nat.zero_le _⟩
  | takenBack report => exact ⟨_, report, Nat.le_refl _⟩
  | stands report _ _ _ better => exact ⟨_, report, better⟩

/-- Structural and whole repairs tell the truth about what is left, and leave no more than there
was. -/
theorem Repair.remaining_accounted (v : Validator) (w : Workflow) :
    (∀ onlyInvalid o, fixStructure v onlyInvalid w = .ok o →
      v.Accounts w o.workflow o.remaining) ∧
    ∀ policy options o, Fixer.fix ⟨v, policy⟩ options w = .ok o →
      v.Accounts w o.workflow o.remaining :=
  ⟨fun _ _ h => accounts_fixStructure h, fun _ _ _ h => Fixer.accounts_fix h⟩

/-- Two nodes that lead to each other, by edges without ids. -/
def Repair.backAndForth : Workflow :=
  { nodes := [{ id := "a", type := "input" }, { id := "b", type := "output" }]
    edges := [{ source := "a", target := "b" }, { source := "b", target := "a" }] }

/-- The cycle is found before the repairs and nothing after them. -/
theorem Repair.remaining_accounted_cycle :
    ∃ o o', fixStructure {} true backAndForth = .ok o ∧
      Validator.Accounts {} backAndForth o.workflow o.remaining ∧
      Fixer.fix ⟨{}, {}⟩ {} backAndForth = .ok o' ∧
      Validator.Accounts {} backAndForth o'.workflow o'.remaining ∧
      backAndForth ≠ o.workflow ∧ o.remaining = [] ∧ o'.remaining = [] := by
  have mending : (fixStructure {} true backAndForth).toOption.map
      (fun o => (decide (backAndForth ≠ o.workflow), o.remaining)) = some (true, []) := by
    decide +kernel
  have repair : (Fixer.fix ⟨{}, {}⟩ {} backAndForth).toOption.map FixOutcome.remaining =
      some [] := by
    decide +kernel
  obtain ⟨o, ho, done⟩ := ok_of_toOption mending
  obtain ⟨o', ho', done'⟩ := ok_of_toOption repair
  obtain ⟨structural, whole⟩ := remaining_accounted {} backAndForth
  injection done with changed none
  exact ⟨o, o', ho, structural true o ho, ho', whole {} {} o' ho', of_decide_eq_true changed, none,
    done'⟩

end WorkflowRepair
