import WorkflowRepair.Proofs.Generation.Protocol

/-!
What is made of a call that failed. A run is compared with the same run where the failing answer
brings other pieces: the two differ in what is told while that answer arrives, and in what comes
later only when the plan does.
-/

namespace WorkflowRepair

namespace Generator

/-- The same generation where the k-th answer brings other pieces and ends as before. -/
def delivering (g : Generator) (k : Nat) (pieces : List String) : Generator :=
  g.answeredBy fun n => if n = k then ⟨pieces, (g.completion k).ending⟩ else g.completion n

/-- Parts of runs that differ in nothing but what is told of the k-th answer, which is the answer
to a call after n others of the part. -/
structure SameBut {α : Type} (g g' : Generator) (k n : Nat) (call : Call) (run run' : Run α) :
    Prop where
  result : run'.result = run.result
  steps : ∃ before after, (before.filterMap RunStep.call?).length = n ∧
    run.steps = before ++ (g.exchange call k ++ after) ∧
    run'.steps = before ++ (g'.exchange call k ++ after)

/-- The run would have gone on after its k-th call as it did if the answer had brought the pieces.
-/
def GoesOn (g : Generator) (request : String) (k : Nat) (pieces : List String) : Prop :=
  ∃ call, SameBut g (g.delivering k pieces) k k call (g.run request)
    ((g.delivering k pieces).run request)

/-- The steps that are left after a call and what is told of its answer, which is the k-th; n calls
are made before it. -/
def LeftAfter (g : Generator) (call : Call) (k n : Nat) (steps rest : List RunStep) : Prop :=
  ∃ before, (before.filterMap RunStep.call?).length = n ∧
    steps = before ++ (g.exchange call k ++ rest)

/-- The k-th call is made for a plan, and after it a plan is asked for once more or given up. -/
def PlansOn (g : Generator) (request : String) (k : Nat) : Prop :=
  ∃ rest, g.LeftAfter (g.planningCall request) k k (g.run request).steps rest ∧
    ([.call (g.planningCall request)] <+: rest ∨
      [.event .thinkingEnd, .event (.fallback "plan" noPlan)] <+: rest)

/-! ### Other pieces -/

section

variable {g : Generator} {k : Nat} {pieces : List String}

theorem completion_delivering_self :
    (g.delivering k pieces).completion k = ⟨pieces, (g.completion k).ending⟩ := if_pos rfl

theorem completion_delivering_of_ne {n : Nat} (h : n ≠ k) :
    (g.delivering k pieces).completion n = g.completion n := if_neg h

theorem exchange_delivering_of_ne {n : Nat} (h : n ≠ k) (call : Call) :
    (g.delivering k pieces).exchange call n = g.exchange call n := by
  rw [exchange, exchange, completion_delivering_of_ne h]

theorem failure_delivering (failed : Heard.isFailure (g.completion k).ending = true) :
    Heard.isFailure ((g.delivering k pieces).completion k).ending = true := by
  rw [completion_delivering_self]
  exact failed

theorem planText_delivering :
    Heard.planText ((g.delivering k pieces).completion k) =
      Heard.planText { pieces := pieces } := by
  rw [completion_delivering_self]
  rfl

theorem attempt_delivering (failed : Heard.isFailure (g.completion k).ending = true) (n : Nat) :
    (g.delivering k pieces).attempt ((g.delivering k pieces).completion n) =
      g.attempt (g.completion n) := by
  by_cases h : n = k
  · subst h
    rw [attempt_eq_failed_iff.2 failed, attempt_eq_failed_iff.2 (failure_delivering failed)]
  · rw [completion_delivering_of_ne h]
    rfl

end

/-! ### Parallel runs -/

section

variable {α β : Type} {g g' : Generator} {k n earlier : Nat} {call : Call} {run run' : Run α}

theorem SameBut.calls (h : SameBut g g' k n call run run') : run'.calls = run.calls := by
  obtain ⟨-, before, after, -, same, same'⟩ := h
  simp only [Run.calls, same, same', List.filterMap_append, calls_exchange]

theorem SameBut.after {steps : List RunStep} {m : Nat}
    (count : (steps.filterMap RunStep.call?).length = m) (h : SameBut g g' k n call run run') :
    SameBut g g' k (m + n) call (run.after steps) (run'.after steps) := by
  obtain ⟨result, before, rest, count', same, same'⟩ := h
  refine ⟨result, steps ++ before, rest, ?_, ?_, ?_⟩
  · rw [List.filterMap_append, List.length_append, count, count']
  · rw [Run.steps_after, same, List.append_assoc]
  · rw [Run.steps_after, same', List.append_assoc]

theorem SameBut.exchange (rest : Run α) :
    SameBut g g' k 0 call (rest.after (g.exchange call k)) (rest.after (g'.exchange call k)) :=
  ⟨rfl, [], rest.steps, rfl, rfl, rfl⟩

theorem SameBut.followed (h : SameBut g g' k n call run run') (rest : Run β) :
    SameBut g g' k n call (rest.after run.steps) (rest.after run'.steps) := by
  obtain ⟨-, before, after, count, same, same'⟩ := h
  refine ⟨rfl, before, after ++ rest.steps, count, ?_, ?_⟩
  · rw [Run.steps_after, same, List.append_assoc, List.append_assoc]
  · rw [Run.steps_after, same', List.append_assoc, List.append_assoc]

/-- Parts of the two runs that start after the same number of calls. They are the same part unless
the k-th call is made in them, and then they differ in no more than its answer, provided that it
makes no difference to the plan. -/
structure Parallel (g : Generator) (k : Nat) (pieces : List String) (earlier : Nat)
    (run run' : Run α) : Prop where
  apart : k < earlier ∨ earlier + run.calls.length ≤ k → run' = run
  here : ∀ n call, earlier + n = k → run.calls[n]? = some call →
    (call.prompt = .analysis →
      Heard.planText { pieces := pieces } = Heard.planText (g.completion k)) →
    SameBut g (g.delivering k pieces) k n call run run'

variable {pieces : List String}

theorem Parallel.refl (outside : k < earlier ∨ earlier + run.calls.length ≤ k) :
    Parallel g k pieces earlier run run := by
  refine ⟨fun _ => rfl, fun n call at_k made => ?_⟩
  have lt := (List.getElem?_eq_some_iff.1 made).1
  omega

theorem Parallel.quiet (h : run.calls = []) : Parallel g k pieces earlier run run := by
  apply Parallel.refl
  rw [h, List.length_nil]
  omega

/-- Steps before both parts, among which the k-th call is not. -/
theorem Parallel.after {steps : List RunStep} {m : Nat}
    (count : (steps.filterMap RunStep.call?).length = m) (outside : k < earlier ∨ earlier + m ≤ k)
    (h : Parallel g k pieces (earlier + m) run run') :
    Parallel g k pieces earlier (run.after steps) (run'.after steps) := by
  have length : (run.after steps).calls.length = m + run.calls.length := by
    rw [Run.calls_after, List.length_append, count]
  refine ⟨fun away => ?_, fun n call at_k made plan => ?_⟩
  · rw [h.apart (by omega)]
  · have le : m ≤ n := by omega
    obtain ⟨n, rfl⟩ := Nat.exists_eq_add_of_le le
    rw [Run.calls_after, List.getElem?_append_right (by omega), count,
      Nat.add_sub_cancel_left] at made
    exact (h.here n call (by omega) made plan).after count

theorem Parallel.told {steps : List RunStep} (none : steps.filterMap RunStep.call? = [])
    (h : Parallel g k pieces earlier run run') :
    Parallel g k pieces earlier (run.after steps) (run'.after steps) :=
  Parallel.after (m := 0) (by rw [none, List.length_nil]) (by omega) h

/-- A call with what follows it. What follows may depend on the answer, unless that is the k-th
answer and makes no difference to the plan. -/
theorem Parallel.exchange (call : Call)
    (h : (earlier = k → call.prompt = .analysis →
        Heard.planText { pieces := pieces } = Heard.planText (g.completion k)) →
      Parallel g k pieces (earlier + 1) run run') :
    Parallel g k pieces earlier (run.after (g.exchange call earlier))
      (run'.after ((g.delivering k pieces).exchange call earlier)) := by
  have count : ((g.exchange call earlier).filterMap RunStep.call?).length = 1 := by
    rw [calls_exchange]
    rfl
  by_cases at_k : earlier = k
  · subst at_k
    refine ⟨fun away => ?_, fun n other later made plan => ?_⟩
    · rw [Run.calls_after, List.length_append, count] at away
      omega
    · obtain rfl : n = 0 := by omega
      rw [Run.calls_after, calls_exchange] at made
      obtain rfl : call = other := Option.some.inj made
      have same : run' = run := (h fun _ => plan).apart (by omega)
      rw [same]
      exact SameBut.exchange run
  · rw [exchange_delivering_of_ne at_k]
    exact (h fun same => absurd same at_k).after count (by omega)

/-- Parts of a run that are parallel one by one are so in a row. Where the call is not made in the
first part, that part is the same and what follows it starts after the same number of calls; where
it is, what follows is the same. -/
theorem Parallel.bind {first first' : Talk α} {next next' : α → Talk β}
    (h : Parallel g k pieces earlier (first earlier) (first' earlier))
    (h' : ∀ a n, Parallel g k pieces n (next a n) (next' a n)) :
    Parallel g k pieces earlier ((first >>= next) earlier) ((first' >>= next') earlier) := by
  by_cases outside : k < earlier ∨ earlier + (first earlier).calls.length ≤ k
  · have same := h.apart outside
    cases ended : (first earlier).result with
    | error fault =>
      have ended' : (first' earlier).result = .error fault := by rw [same, ended]
      rw [Talk.bind_of_error ended, Talk.bind_of_error ended', same]
      exact Parallel.refl outside
    | ok a =>
      have ended' : (first' earlier).result = .ok a := by rw [same, ended]
      rw [Talk.bind_of_ok ended, Talk.bind_of_ok ended', same]
      exact (h' a _).after rfl outside
  · cases ended : (first earlier).result with
    | error fault =>
      rw [Talk.bind_of_error ended]
      refine ⟨fun away => absurd away outside, fun n call at_k made plan => ?_⟩
      have but := h.here n call at_k made plan
      rw [Talk.bind_of_error (but.result.trans ended)]
      exact ⟨rfl, but.steps⟩
    | ok a =>
      rw [Talk.bind_of_ok ended]
      refine ⟨fun away => ?_, fun n call at_k made plan => ?_⟩
      · rw [Run.calls_after_steps, List.length_append] at away
        omega
      · have lt : n < (first earlier).calls.length := by omega
        rw [Run.calls_after_steps, List.getElem?_append_left lt] at made
        have but := h.here n call at_k made plan
        have later := (h' a (earlier + (first earlier).calls.length)).apart (by omega)
        rw [Talk.bind_of_ok (but.result.trans ended), but.calls, later]
        exact but.followed _

/-! ### The parts of a run -/

variable (pieces)

/-- Of the failing answer nothing but the plan is looked at. -/
theorem parallel_askPlan (failed : Heard.isFailure (g.completion k).ending = true)
    (request : String) (left earlier : Nat) :
    Parallel g k pieces earlier (g.askPlan request left earlier)
      ((g.delivering k pieces).askPlan request left earlier) := by
  induction left generalizing earlier with
  | zero => exact Parallel.quiet rfl
  | succ left ih =>
    rw [askPlan_succ, askPlan_succ]
    refine Parallel.exchange _ fun plan => ?_
    by_cases at_k : earlier = k
    · subst at_k
      rw [Heard.ofAnswer_of_failure failed,
        Heard.ofAnswer_of_failure (failure_delivering failed)]
      dsimp only
      rw [planText_delivering, plan rfl rfl]
      split
      · exact ih (earlier + 1)
      · exact Parallel.quiet rfl
    · rw [completion_delivering_of_ne at_k]
      cases Heard.ofAnswer (g.completion earlier) with
      | error fault => exact Parallel.quiet rfl
      | ok heard =>
        dsimp only
        split
        · exact ih (earlier + 1)
        · exact Parallel.quiet rfl

theorem parallel_plan (failed : Heard.isFailure (g.completion k).ending = true)
    (request : String) :
    Parallel g k pieces earlier (g.plan request earlier)
      ((g.delivering k pieces).plan request earlier) := by
  cases wanted : g.policy.plans with
  | false =>
    rw [g.plan_of_unplanned request wanted,
      (g.delivering k pieces).plan_of_unplanned request wanted]
    exact Parallel.quiet rfl
  | true =>
    have wanted' : (g.delivering k pieces).policy.plans = true := wanted
    rw [plan, plan, if_pos wanted, if_pos wanted']
    refine Parallel.bind (Parallel.quiet rfl) fun _ n => ?_
    refine Parallel.bind (parallel_askPlan pieces failed request _ n) fun found n => ?_
    refine Parallel.bind (Parallel.quiet rfl) fun _ n => ?_
    cases found with
    | none => exact Parallel.quiet rfl
    | some text => exact Parallel.quiet rfl

theorem parallel_guided (failed : Heard.isFailure (g.completion k).ending = true)
    (request : String) (plan : Option String) (left : Nat) (errors : List String)
    (earlier : Nat) :
    Parallel g k pieces earlier (g.guided request plan left errors earlier)
      ((g.delivering k pieces).guided request plan left errors earlier) := by
  induction left generalizing errors earlier with
  | zero => exact Parallel.quiet rfl
  | succ left ih =>
    rw [guided_succ, guided_succ, attempt_delivering failed]
    refine Parallel.exchange _ fun _ => ?_
    cases g.attempt (g.completion earlier) with
    | stopped fault => exact Parallel.quiet rfl
    | failed => exact (ih errors (earlier + 1)).told (g.calls_retry left _)
    | judged outcome =>
      dsimp only
      split
      · exact Parallel.quiet (g.calls_verdict outcome)
      · exact (ih outcome.summary (earlier + 1)).told (by simp)

theorem parallel_constrained (failed : Heard.isFailure (g.completion k).ending = true)
    (request : String) (errors : List String) :
    Parallel g k pieces earlier (g.constrained request errors earlier)
      ((g.delivering k pieces).constrained request errors earlier) := by
  rw [constrained_eq, constrained_eq, attempt_delivering failed]
  refine Parallel.told rfl (Parallel.exchange _ fun _ => ?_)
  cases g.attempt (g.completion earlier) with
  | stopped fault => exact Parallel.quiet rfl
  | failed => exact Parallel.quiet rfl
  | judged outcome => exact Parallel.quiet (by simp [Run.calls, List.filterMap_cons])

theorem parallel_run (failed : Heard.isFailure (g.completion k).ending = true)
    (request : String) :
    Parallel g k pieces 0 (g.run request) ((g.delivering k pieces).run request) := by
  refine Parallel.bind (parallel_plan pieces failed request) fun plan n => ?_
  refine Parallel.bind (parallel_guided pieces failed request plan _ [] n) fun outcome n => ?_
  cases outcome with
  | accepted o => exact Parallel.quiet rfl
  | exhausted errors => exact parallel_constrained pieces failed request errors

end

/-! ### After a failed call for a plan -/

/-- A step that is a call is found by the number of the calls before it. -/
theorem split_unique {before before' rest rest' : List RunStep} {call call' : Call}
    (count : (before.filterMap RunStep.call?).length = (before'.filterMap RunStep.call?).length)
    (same : before ++ .call call :: rest = before' ++ .call call' :: rest') :
    before = before' ∧ call = call' ∧ rest = rest' := by
  induction before generalizing before' with
  | nil =>
    cases before' with
    | nil =>
      cases same
      exact ⟨rfl, rfl, rfl⟩
    | cons step steps =>
      obtain ⟨rfl, -⟩ := List.cons.inj same
      cases count
  | cons step steps ih =>
    cases before' with
    | nil =>
      obtain ⟨rfl, -⟩ := List.cons.inj same
      cases count
    | cons step' steps' =>
      obtain ⟨rfl, tails⟩ := List.cons.inj same
      have count' : (steps.filterMap RunStep.call?).length =
          (steps'.filterMap RunStep.call?).length := by
        cases step with
        | call made => exact Nat.succ.inj count
        | event told => exact count
      obtain ⟨rfl, rfl, rfl⟩ := ih count' tails
      exact ⟨rfl, rfl, rfl⟩

section

variable {g : Generator} {request : String} {k n : Nat} {call call' : Call}
  {steps rest rest' : List RunStep}

theorem LeftAfter.unique (h : g.LeftAfter call k n steps rest)
    (h' : g.LeftAfter call' k n steps rest') : rest = rest' := by
  obtain ⟨before, count, split⟩ := h
  obtain ⟨before', count', split'⟩ := h'
  obtain ⟨-, rfl, tails⟩ := split_unique (count.trans count'.symm) (split.symm.trans split')
  exact List.append_cancel_left tails

theorem LeftAfter.prepend {front : List RunStep} {m : Nat}
    (count : (front.filterMap RunStep.call?).length = m) (h : g.LeftAfter call k n steps rest) :
    g.LeftAfter call k (m + n) (front ++ steps) rest := by
  obtain ⟨before, count', rfl⟩ := h
  refine ⟨front ++ before, ?_, (List.append_assoc ..).symm⟩
  rw [List.filterMap_append, List.length_append, count, count']

theorem LeftAfter.told {front : List RunStep} (none : front.filterMap RunStep.call? = [])
    (h : g.LeftAfter call k n steps rest) : g.LeftAfter call k n (front ++ steps) rest := by
  have shifted := h.prepend (congrArg List.length none)
  rwa [List.length_nil, Nat.zero_add] at shifted

theorem LeftAfter.append (more : List RunStep) (h : g.LeftAfter call k n steps rest) :
    g.LeftAfter call k n (steps ++ more) (rest ++ more) := by
  obtain ⟨before, count, rfl⟩ := h
  refine ⟨before, count, ?_⟩
  rw [List.append_assoc, List.append_assoc]

/-- How a run goes on after a failed call for a plan, by the plan that the answer brought. -/
def Sequel (g : Generator) (request : String) (found : Option String) (rest : List RunStep) :
    Prop :=
  found = none ∧ [.call (g.planningCall request)] <+: rest ∨
    [.event .thinkingEnd, .event (planEvent found)] <+: rest

theorem planEvent_inj {found found' : Option String} (h : planEvent found = planEvent found') :
    found = found' := by
  cases found <;> cases found' <;> simp [planEvent, Event.plan, Event.fallback] at h ⊢
  exact h

theorem Sequel.append {found : Option String} (more : List RunStep)
    (h : g.Sequel request found rest) : g.Sequel request found (rest ++ more) := by
  rcases h with ⟨none, again⟩ | last
  · exact .inl ⟨none, again.trans (List.prefix_append ..)⟩
  · exact .inr (last.trans (List.prefix_append ..))

/-- The ways to go on exclude each other, since a call is never the end of the planning. -/
theorem Sequel.found_eq {found found' : Option String} (h : g.Sequel request found rest)
    (h' : g.Sequel request found' rest) : found = found' := by
  rcases h with ⟨rfl, again⟩ | last <;> rcases h' with ⟨rfl, again'⟩ | last'
  · rfl
  · obtain ⟨more, rfl⟩ := again
    obtain ⟨more', same⟩ := last'
    cases same
  · obtain ⟨more, rfl⟩ := again'
    obtain ⟨more', same⟩ := last
    cases same
  · obtain ⟨more, rfl⟩ := last
    obtain ⟨more', same⟩ := last'
    simp only [List.cons_append, List.cons.injEq, RunStep.event.injEq] at same
    exact (planEvent_inj same.2.1).symm

variable (request) in
/-- A failed call for a plan that is made first: the answer brings a plan, or one is asked for again
if it may be. -/
theorem sequel_askPlan_first (failed : Heard.isFailure (g.completion k).ending = true)
    (left : Nat) :
    ∃ rest, (g.askPlan request (left + 1) k).steps =
        g.exchange (g.planningCall request) k ++ rest ∧
      (g.planAfter (k + 1) = none ∧ [.call (g.planningCall request)] <+: rest ∨
        rest = [] ∧ (g.askPlan request (left + 1) k).result = .ok (g.planAfter (k + 1))) := by
  rw [askPlan_succ, Heard.ofAnswer_of_failure failed]
  dsimp only
  by_cases blank : Heard.planText (g.completion k) = ""
  · rw [if_pos blank, planAfter_of_blank blank]
    cases left with
    | zero => exact ⟨[], rfl, .inr ⟨rfl, rfl⟩⟩
    | succ left =>
      rw [askPlan_succ]
      exact ⟨_, rfl, .inl ⟨rfl, List.prefix_append [_] _⟩⟩
  · rw [if_neg blank, planAfter_of_found blank]
    exact ⟨[], rfl, .inr ⟨rfl, rfl⟩⟩

theorem sequel_askPlan (failed : Heard.isFailure (g.completion k).ending = true)
    (left done n : Nat) (at_k : done + n = k)
    (made : n < (g.askPlan request left done).calls.length) :
    ∃ rest, g.LeftAfter (g.planningCall request) k n (g.askPlan request left done).steps rest ∧
      (g.planAfter (k + 1) = none ∧ [.call (g.planningCall request)] <+: rest ∨
        rest = [] ∧ (g.askPlan request left done).result = .ok (g.planAfter (k + 1))) := by
  induction left generalizing done n with
  | zero => cases made
  | succ left ih =>
    cases n with
    | zero =>
      obtain rfl : done = k := at_k
      obtain ⟨rest, split, next⟩ := sequel_askPlan_first request failed left
      exact ⟨rest, ⟨[], rfl, split⟩, next⟩
    | succ n =>
      rw [askPlan_succ] at made ⊢
      rw [Run.calls_after, calls_exchange, List.length_append] at made
      have later := Nat.lt_of_add_lt_add_left (Nat.add_comm n 1 ▸ made)
      cases answered : Heard.ofAnswer (g.completion done) with
      | error fault =>
        rw [answered] at later
        cases later
      | ok heard =>
        rw [answered] at later
        dsimp only at later ⊢
        by_cases blank : heard.plan = ""
        · rw [if_pos blank] at later ⊢
          obtain ⟨rest, split, next⟩ := ih (done + 1) n (by omega) later
          have one : ((g.exchange (g.planningCall request) done).filterMap
              RunStep.call?).length = 1 := by
            rw [calls_exchange]
            rfl
          exact ⟨rest, Nat.add_comm 1 n ▸ split.prepend one, next⟩
        · rw [if_neg blank] at later
          cases later

/-- The outcome of the planning is told at once when nothing is asked for any more. -/
theorem sequel_plan (failed : Heard.isFailure (g.completion k).ending = true)
    (made : k < (g.plan request 0).calls.length) :
    ∃ rest, g.LeftAfter (g.planningCall request) k k (g.plan request 0).steps rest ∧
      g.Sequel request (g.planAfter (k + 1)) rest := by
  cases wanted : g.policy.plans with
  | false =>
    rw [g.plan_of_unplanned request wanted] at made
    cases made
  | true =>
    rw [g.calls_plan_of_planned request 0 wanted] at made
    obtain ⟨rest, split, next⟩ :=
      sequel_askPlan failed g.policy.attempts 0 k (Nat.zero_add k) made
    rw [g.plan_of_planned request 0 wanted, Run.steps_after]
    cases ended : (g.askPlan request g.policy.attempts 0).result with
    | error fault =>
      dsimp only
      refine ⟨rest, split.told rfl, ?_⟩
      rcases next with again | ⟨-, last⟩
      · exact .inl again
      · rw [ended] at last
        cases last
    | ok found =>
      dsimp only
      refine ⟨_, (split.append [.event .thinkingEnd, .event (planEvent found)]).told rfl, ?_⟩
      rcases next with ⟨none, again⟩ | ⟨rfl, last⟩
      · exact .inl ⟨none, again.trans (List.prefix_append ..)⟩
      · rw [ended] at last
        rw [Except.ok.inj last]
        exact .inr (List.prefix_refl _)

theorem prompt_of_mem_make {plan : Option String} {first : Nat}
    (h : call ∈ (g.make request plan first).calls) : call.prompt ≠ .analysis := by
  obtain ⟨guided, constrained, made⟩ := g.made_make first request plan
  rw [made.calls, List.mem_append] at h
  rcases h with h | h
  · obtain ⟨n, -, rfl⟩ := List.mem_map.1 h
    exact nofun
  · rw [List.eq_of_mem_replicate h]
    exact nofun

theorem sequel_run (failed : Heard.isFailure (g.completion k).ending = true)
    (made : (g.run request).calls[k]? = some call) (planning : call.prompt = .analysis) :
    ∃ rest, g.LeftAfter (g.planningCall request) k k (g.run request).steps rest ∧
      g.Sequel request (g.planAfter (k + 1)) rest := by
  cases plan : (g.plan request 0).result with
  | error fault =>
    rw [g.run_of_stopped plan] at made ⊢
    exact sequel_plan failed (List.getElem?_eq_some_iff.1 made).1
  | ok found =>
    rw [g.run_of_ok plan] at made ⊢
    rw [Run.calls_after_steps] at made
    have lt : k < (g.plan request 0).calls.length := by
      refine Nat.lt_of_not_le fun le => ?_
      rw [List.getElem?_append_right le] at made
      exact prompt_of_mem_make (List.mem_of_getElem? made) planning
    obtain ⟨rest, split, next⟩ := sequel_plan failed lt
    exact ⟨_, split.append _, next.append _⟩

end

theorem planText_eq_of_planAfter {g g' : Generator} {k : Nat}
    (h : g'.planAfter (k + 1) = g.planAfter (k + 1)) :
    Heard.planText (g'.completion k) = Heard.planText (g.completion k) := by
  simp only [planAfter] at h
  split at h <;> split at h
  · next blank' blank => rw [blank, blank']
  · cases h
  · cases h
  · exact Option.some.inj h

section

variable {g : Generator} {request : String} {k : Nat} {call : Call}
  (made : (g.run request).calls[k]? = some call) (planning : call.prompt = .analysis)
  (failed : Heard.isFailure (g.completion k).ending = true)
include made planning failed

theorem planText_of_goesOn {pieces : List String} (h : g.GoesOn request k pieces) :
    Heard.planText { pieces := pieces } = Heard.planText (g.completion k) := by
  obtain ⟨other, same⟩ := h
  have made' : ((g.delivering k pieces).run request).calls[k]? = some call := by
    rw [same.calls, made]
  obtain ⟨-, before, after, count, steps, steps'⟩ := same
  obtain ⟨rest, split, next⟩ := sequel_run failed made planning
  obtain ⟨rest', split', next'⟩ := sequel_run (failure_delivering failed) made' planning
  obtain rfl := split.unique ⟨before, count, steps⟩
  obtain rfl := split'.unique ⟨before, count, steps'⟩
  exact planText_delivering.symm.trans (planText_eq_of_planAfter (next'.found_eq next))

theorem plansOn_iff : g.PlansOn request k ↔ Heard.planText (g.completion k) = "" := by
  obtain ⟨rest, split, next⟩ := sequel_run failed made planning
  constructor
  · rintro ⟨rest', split', vain⟩
    obtain rfl := split.unique split'
    have none : g.planAfter (k + 1) = none :=
      next.found_eq (vain.imp_left fun again => ⟨rfl, again⟩)
    simpa [planAfter] using none
  · intro blank
    rw [planAfter_of_blank blank] at next
    exact ⟨rest, split, next.imp_left And.right⟩

end

/-- What a failed call brought is not used unless it is a plan: the run goes on as it would have
done with other pieces just when these make no difference to the plan that the call was to give, and
another plan is asked for, or the planning given up, just when the call brought none. -/
theorem goesOn_iff_of_failure (g : Generator) (request : String) {k : Nat} {call : Call}
    (made : (g.run request).calls[k]? = some call)
    (failed : Heard.isFailure (g.completion k).ending = true) :
    (∀ pieces, g.GoesOn request k pieces ↔ (call.prompt = .analysis →
        Heard.planText { pieces := pieces } = Heard.planText (g.completion k))) ∧
      (call.prompt = .analysis →
        (g.PlansOn request k ↔ Heard.planText (g.completion k) = "")) := by
  refine ⟨fun pieces => ⟨?_, ?_⟩, fun planning => plansOn_iff made planning failed⟩
  · intro same planning
    exact planText_of_goesOn made planning failed same
  · intro plan
    exact ⟨call, (parallel_run pieces failed request).here k call (Nat.zero_add k) made plan⟩

/-- A generation whose first call fails after a whole plan came; later calls bring nothing. -/
def brokenPlan : Generator where
  acceptance := { fixer := { validator := {} } }
  policy := { retries := 1 }
  completion := fun k => if k = 0 then ⟨["<plan>x</plan>"], .failed "reset"⟩ else {}

theorem goesOn_iff_brokenPlan :
    (brokenPlan.run "r").calls[0]? = some (brokenPlan.planningCall "r") ∧
      Heard.isFailure (brokenPlan.completion 0).ending = true ∧
      (∀ pieces, brokenPlan.GoesOn "r" 0 pieces ↔ (Prompt.analysis = .analysis →
        Heard.planText { pieces := pieces } = Heard.planText (brokenPlan.completion 0))) ∧
      (Prompt.analysis = .analysis →
        (brokenPlan.PlansOn "r" 0 ↔ Heard.planText (brokenPlan.completion 0) = "")) := by
  have made : (brokenPlan.run "r").calls[0]? = some (brokenPlan.planningCall "r") := by
    decide +kernel
  exact ⟨made, rfl, brokenPlan.goesOn_iff_of_failure "r" made rfl⟩

/-- The plan of the failed call is announced and handed on, and no other plan is asked for. -/
theorem plan_of_brokenPlan :
    Heard.isFailure (brokenPlan.completion 0).ending = true ∧
      (brokenPlan.run "r").calls[0]? = some (brokenPlan.planningCall "r") ∧
      Event.plan "x" ∈ (brokenPlan.run "r").events ∧
      (brokenPlan.run "r").calls[1]? = some (brokenPlan.guidedCall "r" (some "x") []) ∧
      ¬brokenPlan.GoesOn "r" 0 [] ∧ ¬brokenPlan.PlansOn "r" 0 := by
  have made : (brokenPlan.run "r").calls[0]? = some (brokenPlan.planningCall "r") := by
    decide +kernel
  have plan : Heard.planText (brokenPlan.completion 0) = "x" := by decide +kernel
  have silent : Heard.planText {} = "" := by decide +kernel
  refine ⟨rfl, made, by decide +kernel, by decide +kernel, fun same => ?_, fun again => ?_⟩
  · have brought := planText_of_goesOn made rfl rfl same
    rw [plan, silent] at brought
    exact absurd brought (by decide)
  · have brought := (plansOn_iff made rfl rfl).1 again
    rw [plan] at brought
    exact absurd brought (by decide)

end Generator

end WorkflowRepair
