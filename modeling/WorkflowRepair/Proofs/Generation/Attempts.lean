import WorkflowRepair.Generation
import WorkflowRepair.Proofs.Generation.Talk
import WorkflowRepair.Proofs.TagStream.Chunks

/-!
The attempts of a generation one by one. What becomes of an attempt depends on the answer to its
call alone, and each part of a generation is an exchange with the model followed by what the
attempt comes to.
-/

namespace WorkflowRepair

theorem Narration.tellAll_cons (n : Narration) (tag : TagEvent) (rest : List TagEvent) :
    n.tellAll (tag :: rest) =
      ((n.tell tag).1 ++ ((n.tell tag).2.tellAll rest).1, ((n.tell tag).2.tellAll rest).2) := rfl

theorem Narration.tellAll_append (n : Narration) (a b : List TagEvent) :
    n.tellAll (a ++ b) =
      ((n.tellAll a).1 ++ ((n.tellAll a).2.tellAll b).1, ((n.tellAll a).2.tellAll b).2) := by
  induction a generalizing n with
  | nil => rfl
  | cons tag rest ih => simp [tellAll_cons, ih]

namespace Heard

/-- The plan in an answer, as far as the answer came; it is empty when there is none. -/
def planText (answer : Completion.Answer) : String :=
  Text.strip (({} : Narration).tellAll
    (TagStream.transcript TagStream.standardVocabulary answer.pieces)).2.plan

/-- What is left of an answer, in whatever phase it is listened to. -/
def ofAnswer (answer : Completion.Answer) : Except Fault Heard :=
  match answer.ending with
  | .broke cause => .error (.completionBroke cause)
  | ending => .ok ⟨answer.text, planText answer, isFailure ending⟩

theorem listen_result (phase : String) (answer : Completion.Answer) :
    (listen phase answer).2 = ofAnswer answer := by
  cases h : answer.ending <;>
    simp [listen, ofAnswer, planText, TagStream.transcript, Narration.tellAll_append, h]

theorem eq_of_ofAnswer {answer : Completion.Answer} {heard : Heard}
    (h : ofAnswer answer = .ok heard) :
    heard = ⟨answer.text, planText answer, isFailure answer.ending⟩ := by
  unfold ofAnswer at h
  split at h
  · cases h
  · cases h
    rfl

/-- An answer that fails leaves something, unlike one that breaks. -/
theorem ofAnswer_of_failure {answer : Completion.Answer} (h : isFailure answer.ending = true) :
    ofAnswer answer = .ok ⟨answer.text, planText answer, true⟩ := by
  cases ending : answer.ending <;> simp [ofAnswer, ending, isFailure] at h ⊢

end Heard

/-- The same generation with other answers. -/
def Generator.answeredBy (g : Generator) (completion : Nat → Completion.Answer) : Generator :=
  { g with completion := completion }

/-- What becomes of an attempt at a workflow. -/
inductive Attempt where
  | stopped (fault : Fault)
  | failed
  | judged (outcome : AcceptanceOutcome)

namespace Generator

variable (g : Generator)

def attempt (answer : Completion.Answer) : Attempt :=
  match Heard.ofAnswer answer with
  | .error fault => .stopped fault
  | .ok heard =>
    if heard.failed then .failed
    else match g.acceptance.judgeText heard.text with
      | .error fault => .stopped fault
      | .ok outcome => .judged outcome

variable {g} in
theorem judged_of_attempt {answer : Completion.Answer} {outcome : AcceptanceOutcome}
    (h : g.attempt answer = .judged outcome) :
    Heard.isFailure answer.ending = false ∧
      g.acceptance.judgeText answer.text = .ok outcome := by
  unfold attempt at h
  split at h
  · cases h
  · next heard left =>
    cases Heard.eq_of_ofAnswer left
    split at h
    · cases h
    · next sound =>
      split at h
      · cases h
      · next judged =>
        cases h
        exact ⟨Bool.not_eq_true _ ▸ sound, judged⟩

variable {g} in
theorem attempt_eq_failed_iff {answer : Completion.Answer} :
    g.attempt answer = .failed ↔ Heard.isFailure answer.ending = true := by
  constructor
  · intro h
    unfold attempt at h
    split at h
    · cases h
    · next heard left =>
      cases Heard.eq_of_ofAnswer left
      split at h
      · assumption
      · split at h
        · cases h
        · cases h
  · intro failed
    rw [attempt, Heard.ofAnswer_of_failure failed]
    rfl

/-! ### Calls -/

def planningCall (request : String) : Call :=
  ⟨.analysis, Prompt.analysisMessage request, g.policy.planTemperature⟩

def guidedCall (request : String) (plan : Option String) (errors : List String) : Call :=
  ⟨.guided, Prompt.generationMessage request plan errors, g.policy.guidedTemperature⟩

def constrainedCall (request : String) (errors : List String) : Call :=
  ⟨.constrained, Prompt.generationMessage request none errors, g.policy.constrainedTemperature⟩

/-- A call with what is told of its answer. -/
def exchange (call : Call) (k : Nat) : List RunStep :=
  .call call :: (Heard.listen call.prompt.phase (g.completion k)).1.map .event

theorem ask_eq (call : Call) (k : Nat) :
    g.ask call k = ⟨g.exchange call k, Heard.ofAnswer (g.completion k)⟩ := by
  rw [← Heard.listen_result call.prompt.phase]
  rfl

@[simp] theorem calls_exchange (call : Call) (k : Nat) :
    (g.exchange call k).filterMap RunStep.call? = [call] := by
  simp [exchange, List.filterMap_map, Function.comp_def]

@[simp] theorem events_exchange (call : Call) (k : Nat) :
    (g.exchange call k).filterMap RunStep.event? =
      (Heard.listen call.prompt.phase (g.completion k)).1 := by
  rw [exchange, List.filterMap_cons_none rfl]
  exact filterMap_event?_map_event _

theorem ask_bind_of_ok {α : Type} {call : Call} {next : Heard → Talk α} {k : Nat} {heard : Heard}
    (h : Heard.ofAnswer (g.completion k) = .ok heard) :
    (g.ask call >>= next) k = (next heard (k + 1)).after (g.exchange call k) := by
  have gives : (g.ask call k).result = .ok heard := by rw [ask_eq, h]
  have calls : (g.ask call k).calls = [call] := by rw [ask_eq, Run.calls, calls_exchange]
  rw [Talk.bind_of_ok gives, calls, ask_eq]
  rfl

theorem ask_bind_of_error {α : Type} {call : Call} {next : Heard → Talk α} {k : Nat}
    {fault : Fault} (h : Heard.ofAnswer (g.completion k) = .error fault) :
    (g.ask call >>= next) k = ⟨g.exchange call k, .error fault⟩ := by
  have stops : (g.ask call k).result = .error fault := by rw [ask_eq, h]
  rw [Talk.bind_of_error stops, ask_eq]

/-! ### Planning -/

/-- One attempt at a plan, and what follows it when it gives none. -/
theorem askPlan_succ (request : String) (left k : Nat) :
    g.askPlan request (left + 1) k = Run.after (g.exchange (g.planningCall request) k)
      (match Heard.ofAnswer (g.completion k) with
      | .error fault => ⟨[], .error fault⟩
      | .ok heard =>
        if heard.plan = "" then g.askPlan request left (k + 1)
        else ⟨[], .ok (some heard.plan)⟩) := by
  rw [askPlan]
  cases h : Heard.ofAnswer (g.completion k) with
  | error fault =>
    refine (g.ask_bind_of_error h).trans ?_
    simp [Run.after, planningCall]
  | ok heard =>
    refine (g.ask_bind_of_ok h).trans (congrArg _ ?_)
    dsimp only
    split
    · rfl
    · rfl

/-- What is told of the outcome of the planning. -/
def planEvent : Option String → Event
  | some text => .plan text
  | none => .fallback "plan" noPlan

theorem plan_of_unplanned (request : String) (h : g.policy.plans = false) :
    g.plan request = pure none := by
  rw [plan, h]
  rfl

/-- The planning is announced, and so is its outcome unless it is stopped. -/
theorem plan_of_planned (request : String) (k : Nat) (h : g.policy.plans = true) :
    g.plan request k = Run.after [.event .thinkingStart]
      (match (g.askPlan request g.policy.attempts k).result with
      | .error fault => ⟨(g.askPlan request g.policy.attempts k).steps, .error fault⟩
      | .ok found =>
        ⟨(g.askPlan request g.policy.attempts k).steps ++
          [.event .thinkingEnd, .event (planEvent found)], .ok found⟩) := by
  rw [plan, if_pos h, Talk.tell_bind]
  cases ended : (g.askPlan request g.policy.attempts k).result with
  | error fault => rw [Talk.bind_of_error ended]; rfl
  | ok found =>
    rw [Talk.bind_of_ok ended, Talk.tell_bind]
    cases found with
    | none => dsimp only; rw [Talk.tell_bind]; simp [Run.after, planEvent, pure]
    | some text => dsimp only; rw [Talk.tell_bind]; simp [Run.after, planEvent, pure]

theorem calls_plan_of_planned (request : String) (k : Nat) (h : g.policy.plans = true) :
    (g.plan request k).calls = (g.askPlan request g.policy.attempts k).calls := by
  rw [g.plan_of_planned request k h, Run.calls_after]
  cases (g.askPlan request g.policy.attempts k).result with
  | error fault => rfl
  | ok found => simp [Run.calls, List.filterMap_cons]

/-! ### Workflows -/

/-- What is told after an attempt that is not accepted, when others are left. -/
def retry (left : Nat) (what : String) : List RunStep :=
  (retryEvents left (g.policy.attempts - left) what).map .event

/-- What is told of a text that was judged. -/
def verdict (outcome : AcceptanceOutcome) : List RunStep :=
  (verdictEvents g.policy.reports outcome).map .event

@[simp] theorem calls_retry (left : Nat) (what : String) :
    (g.retry left what).filterMap RunStep.call? = [] := filterMap_call?_map_event _

@[simp] theorem calls_verdict (outcome : AcceptanceOutcome) :
    (g.verdict outcome).filterMap RunStep.call? = [] := filterMap_call?_map_event _

theorem judge_bind_of_ok {α : Type} {text : String} {next : AcceptanceOutcome → Talk α} {k : Nat}
    {outcome : AcceptanceOutcome} (h : g.acceptance.judgeText text = .ok outcome) :
    (g.judge text >>= next) k = (next outcome k).after (g.verdict outcome) := by
  have judged : g.judge text k = ⟨g.verdict outcome, .ok outcome⟩ := by
    rw [judge, h]
    rfl
  have calls : (g.judge text k).calls = [] := by
    rw [judged]
    exact g.calls_verdict outcome
  rw [Talk.bind_of_ok (congrArg Run.result judged), calls, judged]
  rfl

theorem judge_bind_of_error {α : Type} {text : String} {next : AcceptanceOutcome → Talk α}
    {k : Nat} {fault : Fault} (h : g.acceptance.judgeText text = .error fault) :
    (g.judge text >>= next) k = ⟨[], .error fault⟩ := by
  have judged : g.judge text k = ⟨[], .error fault⟩ := by rw [judge, h]
  rw [Talk.bind_of_error (congrArg Run.result judged), judged]

/-- One guided attempt, and what follows it when it is not accepted. -/
theorem guided_succ (request : String) (plan : Option String) (left : Nat) (errors : List String)
    (k : Nat) :
    g.guided request plan (left + 1) errors k = Run.after
      (g.exchange (g.guidedCall request plan errors) k)
      (match g.attempt (g.completion k) with
      | .stopped fault => ⟨[], .error fault⟩
      | .failed =>
        (g.guided request plan left errors (k + 1)).after (g.retry left "模型调用失败")
      | .judged outcome =>
        if outcome.isAccepted then ⟨g.verdict outcome, .ok (.accepted outcome)⟩
        else (g.guided request plan left outcome.summary (k + 1)).after
          (g.verdict outcome ++ g.retry left "生成未通过校验")) := by
  rw [guided, attempt]
  cases answered : Heard.ofAnswer (g.completion k) with
  | error fault => rw [g.ask_bind_of_error answered]; simp [Run.after, guidedCall]
  | ok heard =>
    rw [g.ask_bind_of_ok answered]
    refine congrArg _ ?_
    dsimp only
    split
    · rw [Talk.tell_bind]; rfl
    · cases judged : g.acceptance.judgeText heard.text with
      | error fault => exact g.judge_bind_of_error judged
      | ok outcome =>
        rw [g.judge_bind_of_ok judged]
        dsimp only
        split
        · simp [Run.after, pure]
        · rw [Talk.tell_bind, Run.after_after]; rfl

/-- What is told before the constrained attempt. -/
def giveUp : Event :=
  .fallback "generation"
    ("引导式生成连续 " ++ toString g.policy.attempts ++ " 次未通过校验，改用约束式生成")

theorem constrained_eq (request : String) (errors : List String) (k : Nat) :
    g.constrained request errors k = Run.after [.event g.giveUp] (Run.after
      (g.exchange (g.constrainedCall request errors) k)
      (match g.attempt (g.completion k) with
      | .stopped fault => ⟨[], .error fault⟩
      | .failed => ⟨[.event (.error callFailed []), .event .done], .ok ()⟩
      | .judged outcome =>
        ⟨g.verdict outcome ++ [.event (conclusion outcome), .event .done], .ok ()⟩)) := by
  rw [constrained, Talk.tell_bind, attempt]
  refine congrArg _ ?_
  cases answered : Heard.ofAnswer (g.completion k) with
  | error fault => rw [g.ask_bind_of_error answered]; simp [Run.after, constrainedCall]
  | ok heard =>
    rw [g.ask_bind_of_ok answered]
    refine congrArg _ ?_
    dsimp only
    split
    · rfl
    · cases judged : g.acceptance.judgeText heard.text with
      | error fault => exact g.judge_bind_of_error judged
      | ok outcome =>
        rw [g.judge_bind_of_ok judged]
        rfl

/-- What a run does when the planning is over. -/
def make (request : String) (plan : Option String) : Talk Unit := do
  match ← g.guided request plan g.policy.attempts [] with
  | .accepted outcome => Talk.tell [.result outcome, .done]
  | .exhausted errors => g.constrained request errors

theorem run_of_stopped {request : String} {fault : Fault}
    (h : (g.plan request 0).result = .error fault) :
    g.run request = ⟨(g.plan request 0).steps, .error fault⟩ := Talk.bind_of_error h

theorem run_of_ok {request : String} {plan : Option String}
    (h : (g.plan request 0).result = .ok plan) :
    g.run request = (g.make request plan (g.plan request 0).calls.length).after
      (g.plan request 0).steps := by
  show (g.plan request >>= g.make request) 0 = _
  rw [Talk.bind_of_ok h, Nat.zero_add]

end Generator

end WorkflowRepair
