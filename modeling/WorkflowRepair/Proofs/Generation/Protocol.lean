import WorkflowRepair.Proofs.Generation.Attempts

/-!
Which calls a generation makes. The planning asks until it is given a plan, the guided attempts go
on until one is accepted, and a constrained attempt follows when none is; what a call says follows
from the plan and from the errors of the latest attempt that was heard to its end.
-/

namespace WorkflowRepair

namespace Generator

variable (g : Generator)

/-! ### What earlier answers tell -/

/-- The plan that the last of the first calls gives. -/
def planAfter : Nat → Option String
  | 0 => none
  | k + 1 =>
    let text := Heard.planText (g.completion k)
    if text = "" then none else some text

/-- The latest of the attempts so far, from a call on, whose call did not fail. -/
def latestHeard (first done : Nat) : Option Nat :=
  (List.range done).reverse.find? fun k => !Heard.isFailure (g.completion (first + k)).ending

/-- The errors left in the workflow of a text; there are none when the text has no workflow. -/
def errorsIn (text : String) : List String :=
  match Extraction.payload? g.acceptance.key text with
  | none => []
  | some payload =>
    match g.acceptance.judge payload with
    | .ok outcome => outcome.summary
    | .error _ => []

/-- The errors known after some attempts, of which the first makes the given call. -/
def errorsBefore (first done : Nat) : List String :=
  match g.latestHeard first done with
  | none => []
  | some k => g.errorsIn (g.completion (first + k)).text

/-- The answer to a call did not fail, and its text is accepted. -/
def Accepts (k : Nat) : Prop :=
  ∃ outcome, g.attempt (g.completion k) = .judged outcome ∧ outcome.isAccepted = true

variable {g} {first done k : Nat}

theorem planAfter_of_blank (h : Heard.planText (g.completion k) = "") :
    g.planAfter (k + 1) = none := by
  rw [planAfter, if_pos h]

theorem planAfter_of_found (h : Heard.planText (g.completion k) ≠ "") :
    g.planAfter (k + 1) = some (Heard.planText (g.completion k)) := by
  rw [planAfter, if_neg h]

theorem errorsBefore_succ_of_failed (h : g.attempt (g.completion (first + done)) = .failed) :
    g.errorsBefore first (done + 1) = g.errorsBefore first done := by
  have failed := attempt_eq_failed_iff.1 h
  simp [errorsBefore, latestHeard, List.range_succ, failed]

theorem errorsBefore_succ_of_judged {outcome : AcceptanceOutcome}
    (h : g.attempt (g.completion (first + done)) = .judged outcome) :
    g.errorsBefore first (done + 1) = outcome.summary := by
  obtain ⟨sound, judged⟩ := judged_of_attempt h
  have latest : g.latestHeard first (done + 1) = some done := by
    simp [latestHeard, List.range_succ, sound]
  rw [errorsBefore, latest]
  dsimp only
  rw [Acceptance.judgeText] at judged
  rw [errorsIn]
  cases found : Extraction.payload? g.acceptance.key (g.completion (first + done)).text with
  | none =>
    rw [found] at judged
    cases judged
    rfl
  | some payload =>
    rw [found] at judged
    dsimp only at judged ⊢
    rw [judged]

/-! ### Planning -/

/-- The calls for a plan when some were made in vain: how many more are made, and what they give. -/
structure Planning (g : Generator) (request : String) (done left more : Nat)
    (run : Run (Option String)) : Prop where
  le : more ≤ left
  steps : run.steps = (List.range' done more).flatMap (g.exchange (g.planningCall request))
  stops : ∀ k, k + 1 < done + more → g.planAfter (k + 1) = none
  gives : ∀ found, run.result = .ok found →
    found = g.planAfter (done + more) ∧ (more < left → found.isSome = true)

/-- A blank plan is one more attempt in vain. -/
theorem planning_askPlan (request : String) (left done : Nat)
    (vain : ∀ k, k < done → g.planAfter (k + 1) = none) :
    ∃ more, g.Planning request done left more (g.askPlan request left done) := by
  induction left generalizing done with
  | zero =>
    refine ⟨0, Nat.le_refl 0, rfl, fun k lt => vain k (by omega), fun found ended => ?_⟩
    cases ended
    refine ⟨?_, nofun⟩
    cases done with
    | zero => rfl
    | succ k => exact (vain k (by omega)).symm
  | succ left ih =>
    have once : g.exchange (g.planningCall request) done ++ [] =
        (List.range' done 1).flatMap (g.exchange (g.planningCall request)) := rfl
    rw [askPlan_succ]
    cases answered : Heard.ofAnswer (g.completion done) with
    | error fault =>
      exact ⟨1, by omega, once, fun k lt => vain k (by omega), nofun⟩
    | ok heard =>
      cases Heard.eq_of_ofAnswer answered
      dsimp only
      split
      · next blank =>
        have vain' : ∀ k, k < done + 1 → g.planAfter (k + 1) = none := by
          intro k lt
          rcases Nat.lt_succ_iff_lt_or_eq.1 lt with earlier | rfl
          · exact vain k earlier
          · exact planAfter_of_blank blank
        obtain ⟨more, le, steps, stops, gives⟩ := ih (done + 1) vain'
        have shift : done + 1 + more = done + (more + 1) := by omega
        refine ⟨more + 1, by omega, ?_, ?_, ?_⟩
        · rw [Run.steps_after, steps, List.range'_succ, List.flatMap_cons]
        · rwa [shift] at stops
        · intro found ended
          obtain ⟨plan, some⟩ := gives found ended
          exact ⟨shift ▸ plan, fun lt => some (by omega)⟩
      · next found =>
        refine ⟨1, by omega, once, fun k lt => vain k (by omega), fun plan ended => ?_⟩
        cases ended
        exact ⟨(planAfter_of_found found).symm, fun _ => rfl⟩

/-! ### Guided attempts -/

theorem accepts_iff_of_judged {outcome : AcceptanceOutcome}
    (h : g.attempt (g.completion k) = .judged outcome) :
    g.Accepts k ↔ outcome.isAccepted = true := by
  rw [Accepts, h]
  constructor
  · rintro ⟨_, same, accepted⟩
    cases same
    exact accepted
  · exact fun accepted => ⟨outcome, rfl, accepted⟩

theorem not_accepts_of_failed (h : g.attempt (g.completion k) = .failed) : ¬g.Accepts k := by
  rw [Accepts, h]
  exact fun ⟨_, same, _⟩ => nomatch same

/-- The guided attempts when some were made in vain: how many more are made, and how they end. -/
structure Guiding (g : Generator) (request : String) (plan : Option String)
    (first done left more : Nat) (run : Run GuidedEnd) : Prop where
  le : more ≤ left
  calls : run.calls = (List.range' done more).map fun k =>
    g.guidedCall request plan (g.errorsBefore first k)
  stops : ∀ k, k + 1 < done + more → ¬g.Accepts (first + k)
  accepted : ∀ outcome, run.result = .ok (.accepted outcome) →
    ∃ k, done + more = k + 1 ∧ g.Accepts (first + k)
  exhausted : ∀ errors, run.result = .ok (.exhausted errors) →
    more = left ∧ errors = g.errorsBefore first (done + more) ∧
      ∀ k < done + more, ¬g.Accepts (first + k)

variable {request : String} {plan : Option String} {left more : Nat}

theorem Guiding.last {steps : List RunStep} {result : Except Fault GuidedEnd}
    (vain : ∀ k < done, ¬g.Accepts (first + k))
    (calls : steps.filterMap RunStep.call? =
      [g.guidedCall request plan (g.errorsBefore first done)])
    (ended : ∀ outcome, result = .ok outcome →
      (∃ o, outcome = .accepted o) ∧ g.Accepts (first + done)) :
    g.Guiding request plan first done (left + 1) 1 ⟨steps, result⟩ where
  le := by omega
  calls := calls
  stops k lt := vain k (by omega)
  accepted outcome same := ⟨done, rfl, (ended _ same).2⟩
  exhausted errors same := by
    obtain ⟨⟨o, other⟩, -⟩ := ended _ same
    cases other

theorem Guiding.again {steps : List RunStep} {rest : Run GuidedEnd}
    (calls : steps.filterMap RunStep.call? =
      [g.guidedCall request plan (g.errorsBefore first done)])
    (h : g.Guiding request plan first (done + 1) left more rest) :
    g.Guiding request plan first done (left + 1) (more + 1) (rest.after steps) := by
  have shift : done + 1 + more = done + (more + 1) := by omega
  obtain ⟨le, later, stops, accepted, exhausted⟩ := h
  rw [shift] at stops accepted exhausted
  refine ⟨by omega, ?_, stops, accepted, fun errors same => ?_⟩
  · rw [Run.calls_after, calls, later, List.range'_succ]
    rfl
  · obtain ⟨all, known, vain⟩ := exhausted errors same
    exact ⟨by omega, known, vain⟩

variable (g first request plan) in
/-- The errors handed on are always those known so far. -/
theorem guiding_guided (left done : Nat) (vain : ∀ k < done, ¬g.Accepts (first + k)) :
    ∃ more, g.Guiding request plan first done left more
      (g.guided request plan left (g.errorsBefore first done) (first + done)) := by
  induction left generalizing done with
  | zero =>
    refine ⟨0, Nat.le_refl 0, rfl, fun k lt => vain k (by omega), nofun, fun errors same => ?_⟩
    cases same
    exact ⟨rfl, rfl, vain⟩
  | succ left ih =>
    have goOn : ¬g.Accepts (first + done) →
        ∃ more, g.Guiding request plan first (done + 1) left more
          (g.guided request plan left (g.errorsBefore first (done + 1)) (first + done + 1)) := by
      intro refused
      refine ih (done + 1) fun k lt => ?_
      rcases Nat.lt_succ_iff_lt_or_eq.1 lt with earlier | rfl
      · exact vain k earlier
      · exact refused
    rw [guided_succ]
    cases attempted : g.attempt (g.completion (first + done)) with
    | stopped fault => exact ⟨1, Guiding.last vain (by simp) nofun⟩
    | failed =>
      obtain ⟨more, rest⟩ := goOn (not_accepts_of_failed attempted)
      rw [errorsBefore_succ_of_failed attempted] at rest
      dsimp only
      rw [Run.after_after]
      exact ⟨more + 1, Guiding.again (by simp) rest⟩
    | judged outcome =>
      dsimp only
      split
      · next accepted =>
        refine ⟨1, Guiding.last vain (by simp) fun o same => ?_⟩
        cases same
        exact ⟨⟨_, rfl⟩, (accepts_iff_of_judged attempted).2 accepted⟩
      · next rejected =>
        obtain ⟨more, rest⟩ := goOn (mt (accepts_iff_of_judged attempted).1 rejected)
        rw [errorsBefore_succ_of_judged attempted] at rest
        rw [Run.after_after]
        exact ⟨more + 1, Guiding.again (by simp) rest⟩

/-! ### The whole run -/

theorem calls_planning {run : Run (Option String)} (h : g.Planning request 0 left more run) :
    run.calls = List.replicate more (g.planningCall request) := by
  have each (calls : List Nat) :
      (calls.flatMap (g.exchange (g.planningCall request))).filterMap RunStep.call? =
        List.replicate calls.length (g.planningCall request) := by
    induction calls with
    | nil => rfl
    | cons k rest ih => simp [ih, List.replicate_succ]
  rw [Run.calls, h.steps, each, List.length_range']

/-- The part of a run that plans: how many calls it makes, and what they give. -/
structure Planned (g : Generator) (request : String) (planned : Nat)
    (run : Run (Option String)) : Prop where
  le : planned ≤ g.policy.attempts
  unplanned : g.policy.plans = false → planned = 0
  calls : run.calls = List.replicate planned (g.planningCall request)
  stops : ∀ k, k + 1 < planned → g.planAfter (k + 1) = none
  gives : ∀ found, run.result = .ok found → found = g.planAfter planned ∧
    (g.policy.plans = true → planned < g.policy.attempts → found.isSome = true)

variable (g request) in
theorem planned_plan : ∃ planned, g.Planned request planned (g.plan request 0) := by
  cases wanted : g.policy.plans with
  | false =>
    rw [g.plan_of_unplanned request wanted]
    refine ⟨0, Nat.zero_le _, fun _ => rfl, rfl, fun k lt => absurd lt (by omega), ?_⟩
    intro found same
    cases same
    exact ⟨rfl, fun on => absurd (wanted.symm.trans on) nofun⟩
  | true =>
    obtain ⟨planned, asked⟩ := g.planning_askPlan request g.policy.attempts 0 nofun
    have calls := (g.calls_plan_of_planned request 0 wanted).trans (calls_planning asked)
    obtain ⟨le, -, stops, gives⟩ := asked
    rw [Nat.zero_add] at stops gives
    refine ⟨planned, le, fun off => absurd (wanted.symm.trans off) nofun, calls, stops, ?_⟩
    rw [g.plan_of_planned request 0 wanted]
    · intro found same
      cases ended : (g.askPlan request g.policy.attempts 0).result with
      | error fault =>
        rw [ended] at same
        cases same
      | ok other =>
        rw [ended] at same
        cases same
        exact ⟨(gives found ended).1, fun _ => (gives found ended).2⟩

/-- The part of a run that makes a workflow: its attempts, what they say and how they end. -/
structure Made (g : Generator) (request : String) (plan : Option String)
    (first guided constrained : Nat) (run : Run Unit) : Prop where
  guided_le : guided ≤ g.policy.attempts
  constrained_le : constrained ≤ 1
  calls : run.calls =
    (List.range guided).map (fun k => g.guidedCall request plan (g.errorsBefore first k)) ++
      List.replicate constrained (g.constrainedCall request (g.errorsBefore first guided))
  stops : ∀ k, k + 1 < guided → ¬g.Accepts (first + k)
  ends : run.result = .ok () → guided < g.policy.attempts →
    ∃ k, guided = k + 1 ∧ g.Accepts (first + k)
  constrained_iff : run.result = .ok () →
    (constrained = 1 ↔ ∀ k < guided, ¬g.Accepts (first + k))

theorem calls_constrained (errors : List String) (k : Nat) :
    (g.constrained request errors k).calls = [g.constrainedCall request errors] := by
  rw [constrained_eq, Run.calls_after, Run.calls_after]
  cases g.attempt (g.completion k) <;> simp [Run.calls, List.filterMap_cons]

variable (g request plan first) in
theorem made_make :
    ∃ guided constrained, g.Made request plan first guided constrained
      (g.make request plan first) := by
  obtain ⟨guided, guiding⟩ := g.guiding_guided first request plan g.policy.attempts 0 nofun
  obtain ⟨le, calls, stops, accepted, exhausted⟩ := guiding
  rw [Nat.zero_add] at stops accepted exhausted
  rw [← List.range_eq_range'] at calls
  change (g.guided request plan g.policy.attempts [] first).calls = _ at calls
  cases ended : (g.guided request plan g.policy.attempts [] first).result with
  | error fault =>
    refine ⟨guided, 0, le, Nat.zero_le _, ?_, stops, ?_, ?_⟩
    · rw [make, Talk.bind_of_error ended, List.replicate_zero, List.append_nil]
      exact calls
    · rw [make, Talk.bind_of_error ended]
      exact nofun
    · rw [make, Talk.bind_of_error ended]
      exact nofun
  | ok outcome =>
    rw [make, Talk.bind_of_ok ended]
    cases outcome with
    | accepted o =>
      obtain ⟨last, count, accepts⟩ := accepted o ended
      refine ⟨guided, 0, le, Nat.zero_le _, ?_, stops, fun _ _ => ⟨last, count, accepts⟩, ?_⟩
      · rw [Run.calls_after_steps, calls]
        rfl
      · intro _
        exact ⟨nofun, fun vain => absurd accepts (vain last (by omega))⟩
    | exhausted errors =>
      obtain ⟨all, known, vain⟩ := exhausted errors ended
      refine ⟨guided, 1, le, Nat.le_refl 1, ?_, stops, fun _ lt => absurd lt (by omega), ?_⟩
      · dsimp only
        rw [Run.calls_after_steps, calls, calls_constrained, known]
        rfl
      · exact fun _ => ⟨fun _ => vain, fun _ => rfl⟩

end Generator

end WorkflowRepair
