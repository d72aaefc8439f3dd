import WorkflowRepair.Proofs.Repair.Outcome

/-!
Rounds of repair as steps from workflow to workflow. The rounds of a repair that stop early at a
workflow which a round leaves as it is come to the same as all of them, so a repair is a fixed
number of rounds unless its result is not taken. From this it is told exactly when a second repair
changes the result of the first: a label may hold reference signs, and then every round may rewrite
a reference once more, without end.
-/

namespace WorkflowRepair.Repair

/-- A round leads from one workflow to another. -/
def Leads (fixer : Fixer) (options : FixOptions) (w w' : Workflow) : Prop :=
  ∃ r, round fixer options w = .ok r ∧ r.workflow = w'

/-- So many rounds lead from one workflow to another. -/
inductive LeadsIn (fixer : Fixer) (options : FixOptions) : Nat → Workflow → Workflow → Prop
  | none (w : Workflow) : LeadsIn fixer options 0 w w
  | more {n : Nat} {w w' w'' : Workflow} : Leads fixer options w w' →
      LeadsIn fixer options n w' w'' → LeadsIn fixer options (n + 1) w w''

/-- All rounds that a repair may take lead to a workflow that a further round leaves as it is. -/
def Settles (fixer : Fixer) (options : FixOptions) (w : Workflow) : Prop :=
  ∃ w', LeadsIn fixer options roundLimit w w' ∧ Leads fixer options w' w'

variable {fixer : Fixer} {options : FixOptions}

theorem Leads.unique {w u v : Workflow} (h : Leads fixer options w u)
    (h' : Leads fixer options w v) : u = v := by
  obtain ⟨r, hr, rfl⟩ := h
  obtain ⟨r', hr', rfl⟩ := h'
  rw [Except.ok.inj (hr.symm.trans hr')]

theorem LeadsIn.unique {n : Nat} {w u v : Workflow} (h : LeadsIn fixer options n w u)
    (h' : LeadsIn fixer options n w v) : u = v := by
  induction h with
  | none => cases h'; rfl
  | more step _ ih =>
    cases h' with
    | more step' rest' =>
      obtain rfl := step.unique step'
      exact ih rest'

/-- What each round keeps is kept by any number of rounds. -/
theorem LeadsIn.keeps {p : Workflow → Prop} {n : Nat} {w w' : Workflow}
    (h : LeadsIn fixer options n w w') (start : p w)
    (each : ∀ w r, p w → round fixer options w = .ok r → p r.workflow) : p w' := by
  induction h with
  | none => exact start
  | more step _ ih =>
    obtain ⟨r, run, rfl⟩ := step
    exact ih (each _ r start run)

/-- A workflow that a round leaves as it is stays through any number of rounds. -/
theorem Leads.stays {w : Workflow} (h : Leads fixer options w w) (n : Nat) :
    LeadsIn fixer options n w w := by
  induction n with
  | zero => exact .none w
  | succ n ih => exact .more h ih

/-- Rounds that stop early come to the same as all of them. -/
theorem leadsIn_of_rounds {n : Nat} {current last : Round}
    (h : rounds fixer options n current = .ok last) :
    LeadsIn fixer options n current.workflow last.workflow := by
  induction n generalizing current with
  | zero =>
    cases h
    exact .none _
  | succ n ih =>
    unfold rounds at h
    cases hr : round fixer options current.workflow with
    | error fault => simp [hr] at h
    | ok next =>
      simp only [hr] at h
      split at h
      · next same =>
        cases h
        exact Leads.stays ⟨next, hr, same⟩ (n + 1)
      · have rest := ih h
        exact .more ⟨next, hr, rfl⟩ rest

/-- Rounds return when the first leads to a workflow that a round leaves as it is. -/
theorem rounds_of_leads (current : Round) {w' : Workflow}
    (first : Leads fixer options current.workflow w') (stays : Leads fixer options w' w')
    (n : Nat) :
    ∃ last, rounds fixer options (n + 2) current = .ok last ∧ last.workflow = w' := by
  obtain ⟨r, hr, rfl⟩ := first
  obtain ⟨r', hr', same'⟩ := stays
  simp only [rounds, hr, hr', same', if_true]
  by_cases same : r.workflow = current.workflow
  · rw [if_pos same]
    exact ⟨_, rfl, same.symm⟩
  · rw [if_neg same]
    exact ⟨_, rfl, rfl⟩

end Repair

namespace Fixer

open Repair

variable {fixer : Fixer} {options : FixOptions} {w : Workflow}

/-- A repair leaves a valid workflow alone, takes its result back, or is its rounds. -/
theorem workflow_of_fix {o : FixOutcome} (h : fixer.fix options w = .ok o) :
    o.workflow = w ∧ (options.onlyInvalid = true ∧ o.isValid = true ∨ o.reverted = true) ∨
      LeadsIn fixer options roundLimit w o.workflow := by
  cases fixEnd_of_fix h with
  | leftAlone _ gate => exact .inl ⟨rfl, .inl ⟨gate, rfl⟩⟩
  | takenBack => exact .inl ⟨rfl, .inr rfl⟩
  | stands _ _ rounds => exact .inr (leadsIn_of_rounds rounds)

/-- What each round keeps is kept by a repair. -/
theorem keeps_of_fix {p : Workflow → Prop} {o : FixOutcome} (h : fixer.fix options w = .ok o)
    (start : p w) (each : ∀ w r, p w → round fixer options w = .ok r → p r.workflow) :
    p o.workflow := by
  rcases workflow_of_fix h with ⟨same, -⟩ | leads
  · rw [same]
    exact start
  · exact leads.keeps start each

theorem fix_of_valid {before : Report} (report : fixer.validator.reportOn w = .ok before)
    (gate : options.onlyInvalid = true) (valid : before.isValid = true) :
    fixer.fix options w = .ok { workflow := w } := by
  simp [fix, report, gate, valid]

/-- A repair of an invalid workflow that settles after one round, and to no more issues. -/
theorem fix_of_leads {before after : Report} {w' : Workflow}
    (report : fixer.validator.reportOn w = .ok before) (invalid : before.isValid = false)
    (first : Leads fixer options w w') (stays : Leads fixer options w' w')
    (again : fixer.validator.reportOn w' = .ok after) (better : after.count ≤ before.count) :
    ∃ o, fixer.fix options w = .ok o ∧ o.workflow = w' := by
  obtain ⟨last, rounds, rfl⟩ := rounds_of_leads ⟨w, [], []⟩ first stays 2
  have limit : Repair.rounds fixer options roundLimit ⟨w, [], []⟩ = .ok last := rounds
  refine ⟨{ workflow := last.workflow, fixes := last.fixes, findings := last.findings,
            before := before.issues, remaining := after.issues }, ?_, rfl⟩
  simp [fix, report, invalid, limit, again, Nat.not_lt.2 better]

/-- A result that is taken back is the workflow given. -/
theorem workflow_of_reverted {o : FixOutcome} (h : fixer.fix options w = .ok o)
    (reverted : o.reverted = true) : o.workflow = w := by
  cases fixEnd_of_fix h with
  | leftAlone => rfl
  | takenBack => rfl
  | stands => cases reverted

/-- A workflow that the rounds lead back to is its own repair. -/
theorem workflow_of_leadsIn_self {o : FixOutcome} (h : fixer.fix options w = .ok o)
    (home : LeadsIn fixer options roundLimit w w) : o.workflow = w := by
  rcases workflow_of_fix h with ⟨same, -⟩ | leads
  · exact same
  · exact leads.unique home

/-- What is found in a workflow decides on its validity, whatever repair it comes from. -/
theorem isValid_congr {options' : FixOptions} {w' : Workflow} {o o' : FixOutcome}
    (h : fixer.fix options w = .ok o) (h' : fixer.fix options' w' = .ok o')
    (same : o.workflow = o'.workflow) : o.isValid = o'.isValid := by
  have report := reportOn_fix h
  rw [same, reportOn_fix h'] at report
  injection report with report
  injection report with remaining
  simp only [FixOutcome.isValid, remaining]

/-- A second repair yields the result of the first exactly when that is valid and only the invalid
is repaired, or the second result is taken back, or the rounds lead from the first result back to
it; so it does whenever the rounds of the first repair settle. -/
theorem fix_again_eq_iff {first second : FixOutcome} (once : fixer.fix options w = .ok first)
    (again : fixer.fix options first.workflow = .ok second) :
    (second.workflow = first.workflow ↔
      options.onlyInvalid = true ∧ first.isValid = true ∨ second.reverted = true ∨
        LeadsIn fixer options roundLimit first.workflow first.workflow) ∧
    (Settles fixer options w → second.workflow = first.workflow) := by
  refine ⟨⟨fun same => ?_, ?_⟩, ?_⟩
  · rcases workflow_of_fix again with ⟨-, ⟨gate, valid⟩ | reverted⟩ | leads
    · exact .inl ⟨gate, isValid_congr again once same ▸ valid⟩
    · exact .inr (.inl reverted)
    · rw [same] at leads
      exact .inr (.inr leads)
  · rintro (⟨gate, valid⟩ | reverted | home)
    · rw [fix_of_valid (reportOn_fix once) gate valid] at again
      cases again
      rfl
    · exact workflow_of_reverted again reverted
    · exact workflow_of_leadsIn_self again home
  · rintro ⟨w', leads, stays⟩
    rcases workflow_of_fix once with ⟨same, -⟩ | leads'
    · rw [same, once] at again
      cases again
      rfl
    · obtain rfl := leads.unique leads'
      exact workflow_of_leadsIn_self again (stays.stays roundLimit)

/-- An input node whose label begins with its own id, with a text in its data. -/
def selfNaming (text : String) : Workflow :=
  { nodes := [{
      id := "x"
      type := "input"
      data := [("label", .str "x.a"), ("v", .str text)] }] }

/-- The id that is replaced by the label stands in the label again, so that every round replaces it
once more. -/
theorem fix_selfNaming :
    let fixer : Fixer := { validator := { profile := .generated } }
    ∃ first second, fixer.fix {} (selfNaming "\x7b\x7bx\x7d\x7d") = .ok first ∧
      fixer.fix {} first.workflow = .ok second ∧
      first.workflow = selfNaming "\x7b\x7bx.a.a.a.a\x7d\x7d" ∧
      second.workflow = selfNaming "\x7b\x7bx.a.a.a.a.a.a.a.a\x7d\x7d" := by
  intro fixer
  have once : (fixer.fix {} (selfNaming "\x7b\x7bx\x7d\x7d")).toOption.map FixOutcome.workflow =
      some (selfNaming "\x7b\x7bx.a.a.a.a\x7d\x7d") := by decide +kernel
  have again : (fixer.fix {} (selfNaming "\x7b\x7bx.a.a.a.a\x7d\x7d")).toOption.map
      FixOutcome.workflow = some (selfNaming "\x7b\x7bx.a.a.a.a.a.a.a.a\x7d\x7d") := by
    decide +kernel
  obtain ⟨first, hfirst, same⟩ := ok_of_toOption once
  obtain ⟨second, hsecond, same'⟩ := ok_of_toOption again
  exact ⟨first, second, hfirst, same ▸ hsecond, same, same'⟩

/-- A second repair may change the result of the first. -/
theorem fix_again_ne :
    ¬ ∀ (fixer : Fixer) (options : FixOptions) (w : Workflow) (first second : FixOutcome),
      fixer.fix options w = .ok first → fixer.fix options first.workflow = .ok second →
        second.workflow = first.workflow := by
  intro all
  obtain ⟨first, second, once, again, same, same'⟩ := fix_selfNaming
  have equal := all _ _ _ first second once again
  rw [same, same'] at equal
  exact absurd equal (by decide)

/-- The rounds on a node named after itself neither settle nor lead back. -/
theorem fix_again_selfNaming :
    let fixer : Fixer := { validator := { profile := .generated } }
    ∃ first second, fixer.fix {} (selfNaming "\x7b\x7bx\x7d\x7d") = .ok first ∧
      fixer.fix {} first.workflow = .ok second ∧
      ¬ Settles fixer {} (selfNaming "\x7b\x7bx\x7d\x7d") ∧
      ¬ LeadsIn fixer {} roundLimit first.workflow first.workflow := by
  intro fixer
  obtain ⟨first, second, once, again, same, same'⟩ := fix_selfNaming
  have differ : second.workflow ≠ first.workflow := by
    rw [same, same']
    decide
  obtain ⟨exactly, settled⟩ := fix_again_eq_iff once again
  refine ⟨first, second, once, again, fun settles => differ (settled settles), fun home => ?_⟩
  exact differ (exactly.2 (.inr (.inr home)))

end Fixer

end WorkflowRepair
