import WorkflowRepair.Proofs.Generation.Protocol
import WorkflowRepair.Proofs.Generation.Telling
import WorkflowRepair.Proofs.Workflow.RoundTrip

/-!
The course of a generation as its events show it: how the planning is told, when the constrained
attempt is announced, and what the events end with.
-/

namespace WorkflowRepair

namespace Event

/-- Whether a more cautious way is taken at the stage. -/
def isFallback (stage : String) (event : Event) : Bool :=
  event.kind = .fallback ∧ Members.getD event.payload "stage" = .str stage

/-- Whether the event belongs to the planning as a whole. -/
def isPlanning (event : Event) : Bool :=
  event.kind == .thinkingStart || event.kind == .thinkingEnd || event.kind == .plan ||
    event.isFallback "plan"

/-- Whether the event says what a generation comes to. -/
def isOutcome (event : Event) : Bool := event.kind == .result || event.kind == .error

end Event

/-- The events of a generation that ends, with or without planning, in which so many constrained
calls are made. -/
structure Course (plans : Bool) (constrained : Nat) (events : List Event) : Prop where
  /-- There is one outcome, and after it the last event. -/
  ends : ∃ front last, events = front ++ [last, .done] ∧ last.isOutcome = true ∧
    ∀ event ∈ front, event.isOutcome = false ∧ event.isTerminal = false
  /-- The planning comes first and ends once, with a plan or without. -/
  planned : plans = true → ∃ talk chosen rest,
    events = .thinkingStart :: (talk ++ .thinkingEnd :: chosen :: rest) ∧
      (chosen.kind = .plan ∨ chosen.isFallback "plan" = true) ∧
      ∀ event ∈ talk ++ rest, event.isPlanning = false
  unplanned : plans = false → ∀ event ∈ events, event.isPlanning = false
  fallbacks : events.countP (Event.isFallback "generation") = constrained
  constrained_le : constrained ≤ 1

namespace Event

theorem isFallback_of_kind_ne {stage : String} {event : Event} (h : event.kind ≠ .fallback) :
    event.isFallback stage = false := by
  simp [isFallback, h]

theorem OfAttempt.isFallback {event : Event} (h : event.OfAttempt) (stage : String) :
    event.isFallback stage = false :=
  isFallback_of_kind_ne (h.kind_ne _ nofun)

theorem OfAttempt.isPlanning {event : Event} (h : event.OfAttempt) : event.isPlanning = false := by
  simp [Event.isPlanning, h.isFallback, h.kind_ne .thinkingStart nofun,
    h.kind_ne .thinkingEnd nofun, h.kind_ne .plan nofun]

theorem OfAttempt.isOutcome {event : Event} (h : event.OfAttempt) : event.isOutcome = false := by
  simp [Event.isOutcome, h.kind_ne .result nofun, h.kind_ne .error nofun]

theorem OfAttempt.isTerminal {event : Event} (h : event.OfAttempt) :
    event.isTerminal = false := by
  simp [Event.isTerminal, h.kind_ne .done nofun]

theorem isFallback_of_isOutcome {event : Event} (h : event.isOutcome = true) (stage : String) :
    event.isFallback stage = false := by
  refine isFallback_of_kind_ne fun kind => ?_
  simp [isOutcome, kind] at h

theorem isPlanning_of_isOutcome {event : Event} (h : event.isOutcome = true) :
    event.isPlanning = false := by
  have fallback := isFallback_of_isOutcome h "plan"
  simp only [isOutcome, Bool.or_eq_true, beq_iff_eq] at h
  rcases h with kind | kind <;> simp [isPlanning, kind, fallback]

theorem isFallback_fallback (stage stage' reason : String) :
    (fallback stage reason).isFallback stage' = decide (stage = stage') := by
  simp [isFallback, fallback, Members.getD_cons]

end Event

namespace Generator

variable {g : Generator} {request : String} {plan : Option String} {k : Nat}

theorem ofAttempt_of_mem_exchange {call : Call} {event : Event}
    (h : event ∈ (g.exchange call k).filterMap RunStep.event?) : event.OfAttempt := by
  refine (g.tells_ask call).events k event ?_
  rw [ask_eq]
  exact h

theorem events_verdict (outcome : AcceptanceOutcome) :
    (g.verdict outcome).filterMap RunStep.event? = verdictEvents g.policy.reports outcome :=
  filterMap_event?_map_event _

theorem isOutcome_conclusion (outcome : AcceptanceOutcome) :
    (conclusion outcome).isOutcome = true := by
  unfold conclusion
  cases outcome.verdict <;> rfl

theorem isPlanning_giveUp : g.giveUp.isPlanning = false := by
  have kind : g.giveUp.kind = .fallback := rfl
  have stage : g.giveUp.isFallback "plan" = false := Event.isFallback_fallback ..
  simp [Event.isPlanning, kind, stage]

theorem isFallback_giveUp : g.giveUp.isFallback "generation" = true :=
  Event.isFallback_fallback ..

/-! ### The planning -/

/-- The events that open a run: nothing, or the planning with all that is told of its attempts. -/
structure Opening (plans : Bool) (events : List Event) : Prop where
  silent : ∀ event ∈ events, event.isOutcome = false ∧ event.isTerminal = false
  fallbacks : events.countP (Event.isFallback "generation") = 0
  planned : plans = true → ∃ talk chosen,
    events = .thinkingStart :: (talk ++ [.thinkingEnd, chosen]) ∧
      (chosen.kind = .plan ∨ chosen.isFallback "plan" = true) ∧
      ∀ event ∈ talk, event.isPlanning = false
  unplanned : plans = false → events = []

theorem countP_fallback_of_attempts {events : List Event}
    (h : ∀ event ∈ events, event.OfAttempt) :
    events.countP (Event.isFallback "generation") = 0 :=
  List.countP_eq_zero.2 fun event mem => by simp [(h event mem).isFallback]

theorem chosen_planEvent (found : Option String) :
    (planEvent found).kind = .plan ∨ (planEvent found).isFallback "plan" = true := by
  cases found with
  | none => exact .inr (Event.isFallback_fallback ..)
  | some text => exact .inl rfl

theorem isFallback_planEvent (found : Option String) :
    (planEvent found).isFallback "generation" = false := by
  cases found with
  | none => exact Event.isFallback_fallback ..
  | some text => exact Event.isFallback_of_kind_ne nofun

theorem silent_planEvent (found : Option String) :
    (planEvent found).isOutcome = false ∧ (planEvent found).isTerminal = false := by
  cases found <;> exact ⟨rfl, rfl⟩

theorem opening_planned {talk : List Event} (h : ∀ event ∈ talk, event.OfAttempt)
    (found : Option String) :
    Opening true (.thinkingStart :: (talk ++ [.thinkingEnd, planEvent found])) where
  silent event mem := by
    simp only [List.mem_cons, List.mem_append, List.not_mem_nil, or_false] at mem
    rcases mem with rfl | mem | rfl | rfl
    · exact ⟨rfl, rfl⟩
    · exact ⟨(h event mem).isOutcome, (h event mem).isTerminal⟩
    · exact ⟨rfl, rfl⟩
    · exact silent_planEvent found
  fallbacks := by
    have last : [.thinkingEnd, planEvent found].countP (Event.isFallback "generation") = 0 := by
      rw [List.countP_cons_of_neg (by decide), List.countP_cons_of_neg]
      · rfl
      · rw [isFallback_planEvent]
        exact Bool.false_ne_true
    rw [List.countP_cons_of_neg (by decide), List.countP_append, countP_fallback_of_attempts h,
      last]
  planned _ := ⟨talk, planEvent found, rfl, chosen_planEvent found,
    fun event mem => (h event mem).isPlanning⟩
  unplanned := nofun

theorem opening_plan {found : Option String} (gives : (g.plan request k).result = .ok found) :
    Opening g.policy.plans (g.plan request k).events := by
  cases wanted : g.policy.plans with
  | false =>
    rw [g.plan_of_unplanned request wanted]
    exact ⟨nofun, rfl, nofun, fun _ => rfl⟩
  | true =>
    rw [g.plan_of_planned request k wanted] at gives ⊢
    cases ended : (g.askPlan request g.policy.attempts k).result with
    | error fault =>
      rw [ended] at gives
      cases gives
    | ok other =>
      have events : ((g.askPlan request g.policy.attempts k).steps ++
          [RunStep.event .thinkingEnd, .event (planEvent other)]).filterMap RunStep.event? =
            (g.askPlan request g.policy.attempts k).events ++ [.thinkingEnd, planEvent other] := by
        rw [List.filterMap_append]
        rfl
      rw [Run.events_after]
      dsimp only [Run.events]
      rw [events]
      exact opening_planned ((g.tells_askPlan request _).events k) other

/-! ### The workflow -/

/-- The events that close a run: what is told of attempts, with or without the announcement of a
constrained one, and an outcome. -/
structure Closing (g : Generator) (constrained : Nat) (body : List Event) (last : Event) :
    Prop where
  outcome : last.isOutcome = true
  attempts : ∀ event ∈ body, event.OfAttempt ∨ event = g.giveUp
  fallbacks : body.countP (Event.isFallback "generation") = constrained

/-- Whether the call is that of the constrained attempt. -/
def isConstrained (call : Call) : Bool := call.prompt = .constrained

theorem countP_guided (left : Nat) :
    (g.guided request plan left [] k).calls.countP isConstrained = 0 := by
  obtain ⟨more, guiding⟩ := g.guiding_guided k request plan left 0 nofun
  have calls : (g.guided request plan left [] k).calls = _ := guiding.calls
  rw [calls, List.countP_map]
  exact List.countP_eq_zero.2 fun _ _ => nofun

theorem events_constrained {errors : List String}
    (ended : (g.constrained request errors k).result = .ok ()) :
    ∃ talk last, (g.constrained request errors k).events = g.giveUp :: talk ++ [last, .done] ∧
      last.isOutcome = true ∧ ∀ event ∈ talk, event.OfAttempt := by
  rw [constrained_eq] at ended ⊢
  cases attempted : g.attempt (g.completion k) with
  | stopped fault =>
    rw [attempted] at ended
    cases ended
  | failed =>
    refine ⟨(g.exchange (g.constrainedCall request errors) k).filterMap RunStep.event?,
      .error callFailed [], ?_, rfl, fun event => ofAttempt_of_mem_exchange⟩
    simp [Run.events]
  | judged outcome =>
    refine ⟨(g.exchange (g.constrainedCall request errors) k).filterMap RunStep.event? ++
      verdictEvents g.policy.reports outcome, conclusion outcome, ?_,
      isOutcome_conclusion outcome, fun event mem => ?_⟩
    · simp [Run.events, events_verdict]
    · rcases List.mem_append.1 mem with told | judged
      · exact ofAttempt_of_mem_exchange told
      · exact ofAttempt_of_mem_verdictEvents judged

theorem closing_make (ended : (g.make request plan k).result = .ok ()) :
    ∃ body last, (g.make request plan k).events = body ++ [last, .done] ∧
      g.Closing ((g.make request plan k).calls.countP isConstrained) body last ∧
      (g.make request plan k).calls.countP isConstrained ≤ 1 := by
  have tells : Talk.Keeps Event.OfAttempt (fun _ => True)
      (g.guided request plan g.policy.attempts []) :=
    g.tells_guided (fun _ _ _ => trivial) (fun _ _ _ => trivial) (fun _ => trivial) ..
  have guiding := tells.events k
  have fallbacks := countP_fallback_of_attempts guiding
  cases outcome : (g.guided request plan g.policy.attempts [] k).result with
  | error fault =>
    rw [make, Talk.bind_of_error outcome] at ended
    cases ended
  | ok outcome' =>
    rw [make, Talk.bind_of_ok outcome] at ended ⊢
    rw [Run.events_after_steps, Run.calls_after_steps, List.countP_append, countP_guided,
      Nat.zero_add]
    cases outcome' with
    | accepted o =>
      refine ⟨_, .result o, rfl, ⟨rfl, ?_, fallbacks⟩, Nat.zero_le 1⟩
      exact fun event mem => .inl (guiding event mem)
    | exhausted errors =>
      obtain ⟨talk, last, events, outcome, attempts⟩ := events_constrained ended
      dsimp only
      rw [events, calls_constrained]
      refine ⟨_, last, (List.append_assoc ..).symm, ⟨outcome, fun event mem => ?_, ?_⟩,
        Nat.le_refl 1⟩
      · rcases List.mem_append.1 mem with before | mem
        · exact .inl (guiding event before)
        · rcases List.mem_cons.1 mem with same | after
          · exact .inr same
          · exact .inl (attempts event after)
      · rw [List.countP_append, List.countP_cons_of_pos isFallback_giveUp, fallbacks,
          countP_fallback_of_attempts attempts]
        rfl

namespace Closing

variable {constrained : Nat} {body : List Event} {last : Event}

theorem isPlanning (h : g.Closing constrained body last) :
    ∀ event ∈ body ++ [last, .done], event.isPlanning = false := by
  intro event mem
  simp only [List.mem_append, List.mem_cons, List.not_mem_nil, or_false] at mem
  rcases mem with mem | rfl | rfl
  · rcases h.attempts event mem with told | rfl
    · exact told.isPlanning
    · exact isPlanning_giveUp
  · exact Event.isPlanning_of_isOutcome h.outcome
  · rfl

theorem silent (h : g.Closing constrained body last) :
    ∀ event ∈ body, event.isOutcome = false ∧ event.isTerminal = false := by
  intro event mem
  rcases h.attempts event mem with told | rfl
  · exact ⟨told.isOutcome, told.isTerminal⟩
  · exact ⟨rfl, rfl⟩

theorem countP_fallback (h : g.Closing constrained body last) :
    (body ++ [last, .done]).countP (Event.isFallback "generation") = constrained := by
  have rest : [last, .done].countP (Event.isFallback "generation") = 0 := by
    rw [List.countP_cons_of_neg (by simp [Event.isFallback_of_isOutcome h.outcome])]
    rfl
  rw [List.countP_append, rest, h.fallbacks, Nat.add_zero]

end Closing

theorem Opening.course {plans : Bool} {constrained : Nat} {front body : List Event} {last : Event}
    (opening : Opening plans front) (closing : g.Closing constrained body last)
    (one : constrained ≤ 1) : Course plans constrained (front ++ (body ++ [last, .done])) where
  ends := by
    refine ⟨front ++ body, last, (List.append_assoc ..).symm, closing.outcome, ?_⟩
    intro event mem
    rcases List.mem_append.1 mem with mem | mem
    · exact opening.silent event mem
    · exact closing.silent event mem
  planned wanted := by
    obtain ⟨talk, chosen, rfl, choice, quiet⟩ := opening.planned wanted
    refine ⟨talk, chosen, body ++ [last, .done], by simp, choice, ?_⟩
    intro event mem
    rcases List.mem_append.1 mem with mem | mem
    · exact quiet event mem
    · exact closing.isPlanning event mem
  unplanned off := by
    rw [opening.unplanned off, List.nil_append]
    exact closing.isPlanning
  fallbacks := by
    rw [List.countP_append, opening.fallbacks, closing.countP_fallback, Nat.zero_add]
  constrained_le := one

theorem countP_plan : (g.plan request 0).calls.countP isConstrained = 0 := by
  obtain ⟨planned, planning⟩ := g.planned_plan request
  rw [planning.calls]
  refine List.countP_eq_zero.2 fun call mem => ?_
  rw [List.eq_of_mem_replicate mem]
  exact nofun

/-- A run that ends tells its planning, its attempts and its outcome in this order. -/
theorem course_of_run (g : Generator) (request : String)
    (ended : (g.run request).result = .ok ()) :
    Course g.policy.plans ((g.run request).calls.countP isConstrained) (g.run request).events := by
  cases plan : (g.plan request 0).result with
  | error fault =>
    rw [g.run_of_stopped plan] at ended
    cases ended
  | ok found =>
    rw [g.run_of_ok plan] at ended ⊢
    obtain ⟨body, last, events, closing, one⟩ := closing_make ended
    rw [Run.events_after_steps, Run.calls_after_steps, List.countP_append, countP_plan,
      Nat.zero_add, events]
    exact (opening_plan plan).course closing one

/-- A generation all of whose calls fail. -/
def unanswered : Generator where
  acceptance := { fixer := { validator := {} } }
  policy := { retries := 3 }
  completion := fun _ => { ending := .failed "down" }

theorem course_of_run_unanswered :
    (unanswered.run "r").result = .ok () ∧ Course true 1 (unanswered.run "r").events := by
  have ended : (unanswered.run "r").result = .ok () := by rfl
  have one : (unanswered.run "r").calls.countP isConstrained = 1 := by decide +kernel
  exact ⟨ended, one ▸ unanswered.course_of_run "r" ended⟩

end Generator

end WorkflowRepair
