import WorkflowRepair.Completion
import WorkflowRepair.Generation.Hearing
import WorkflowRepair.Generation.Run
import WorkflowRepair.Validation.Digest

/-!
Generation of a workflow for a request. A plan is asked for first; then come guided attempts, each
of which is told what was wrong with the one before; when all of them fail, one constrained
attempt is made. A generation tells all it does and ends with a result or an error.
-/

namespace WorkflowRepair

/-- How a generation goes about its work. -/
structure GenerationPolicy where
  retries : Int := 2
  plans : Bool := true
  planTemperature : Number := .double (Double.ofDecimal false 5 (-1))
  guidedTemperature : Number := .double (Double.ofDecimal false 2 (-1))
  constrainedTemperature : Number := .double (Double.ofDecimal false 0 0)
  reports : Bool := true
deriving DecidableEq, Repr

/-- The number of attempts of a kind, at least one. -/
def GenerationPolicy.attempts (policy : GenerationPolicy) : Nat := Nat.max 1 policy.retries.toNat

/-- A generation: a policy, what is done with the texts of the model, and what the model answers to
each call by the number of the calls before it. -/
structure Generator where
  acceptance : Acceptance
  policy : GenerationPolicy
  completion : Nat → Completion.Answer

namespace Generator

/-- The reason for going on without a plan. -/
def noPlan : String := "规划阶段未产出有效计划，我会直接生成工作流（你可以稍后再调整）。"

def noWorkflow : String := "生成结果缺少合法 JSON，已中止。请重试或简化需求。"

def beyondRepair : String := "生成的工作流存在无法自动修复的 Hard Error，已中止。"

/-- The error of a last call that failed. -/
def callFailed : String := "模型调用失败，已中止。请稍后重试。"

/-- How many fixes are listed in the text of an event. -/
def fixLimit : Nat := 20

/-- What is told of a report, unless it is not wanted or holds nothing. -/
def reportEvents (wanted : Bool) (report : Report) : List Event :=
  if wanted && !report.isValid then
    [⟨.validation,
      ("content", .str (report.digest Report.digestLimit)) :: report.toMembers⟩]
  else []

/-- What is told of a repair, unless it did nothing. -/
def fixEvents (outcome : AcceptanceOutcome) : List Event :=
  if outcome.reverted then
    [⟨.validationFix,
      [("content", .str "[安全修复] 修复后 Hard Error 未减少，已回退到修复前的结果"),
        ("reverted", .bool true), ("fixes", .arr [])]⟩]
  else if outcome.fixes.isEmpty then []
  else
    let heading := "[安全修复] Hard Error " ++ toString outcome.report.count ++ " → "
      ++ toString outcome.remaining.length ++ "\n"
    [⟨.validationFix,
      [("content",
          .str (heading ++ "\n".intercalate ((outcome.fixes.take fixLimit).map ("- " ++ ·)))),
        ("reverted", .bool false), ("fixes", .ofTexts outcome.fixes),
        ("findings", .ofTexts outcome.findings)]⟩]

def verdictEvents (reports : Bool) (outcome : AcceptanceOutcome) : List Event :=
  match outcome.verdict with
  | .missingJson => [.step "validation" .error noWorkflow]
  | .accepted | .rejected => reportEvents reports outcome.report ++ fixEvents outcome

/-- Makes a call and listens to its answer. -/
def ask (g : Generator) (call : Call) : Talk Heard := fun earlier =>
  let (events, result) := Heard.listen call.prompt.phase (g.completion earlier)
  ⟨.call call :: events.map .event, result⟩

def judge (g : Generator) (text : String) : Talk AcceptanceOutcome := fun _ =>
  match g.acceptance.judgeText text with
  | .error fault => ⟨[], .error fault⟩
  | .ok outcome => ⟨(verdictEvents g.policy.reports outcome).map .event, .ok outcome⟩

def askPlan (g : Generator) (request : String) : Nat → Talk (Option String)
  | 0 => pure none
  | left + 1 => do
    let heard ← g.ask ⟨.analysis, Prompt.analysisMessage request, g.policy.planTemperature⟩
    if heard.plan = "" then g.askPlan request left else pure (some heard.plan)

/-- The planning, when it is wanted. -/
def plan (g : Generator) (request : String) : Talk (Option String) :=
  if g.policy.plans then do
    Talk.tell [.thinkingStart]
    let plan ← g.askPlan request g.policy.attempts
    Talk.tell [.thinkingEnd]
    match plan with
    | some text => Talk.tell [.plan text]
    | none => Talk.tell [.fallback "plan" noPlan]
    pure plan
  else pure none

/-- What the guided attempts come to: a workflow that is accepted, or the errors of the last
workflow that was judged. -/
inductive GuidedEnd where
  | accepted (outcome : AcceptanceOutcome)
  | exhausted (errors : List String)

/-- What is told before another attempt, if there is one. -/
def retryEvents (left attempt : Nat) (what : String) : List Event :=
  if left = 0 then []
  else [.step "retry" .completed ("第 " ++ toString attempt ++ " 次" ++ what ++ "，正在重试")]

/-- The guided attempts that are left. A call that fails leaves the known errors as they are. -/
def guided (g : Generator) (request : String) (plan : Option String) :
    Nat → List String → Talk GuidedEnd
  | 0, errors => pure (.exhausted errors)
  | left + 1, errors => do
    let attempt := g.policy.attempts - left
    let heard ← g.ask
      ⟨.guided, Prompt.generationMessage request plan errors, g.policy.guidedTemperature⟩
    if heard.failed then
      Talk.tell (retryEvents left attempt "模型调用失败")
      g.guided request plan left errors
    else
      let outcome ← g.judge heard.text
      if outcome.isAccepted then pure (.accepted outcome)
      else
        Talk.tell (retryEvents left attempt "生成未通过校验")
        g.guided request plan left outcome.summary

/-- What ends a generation after the verdict on the constrained attempt. -/
def conclusion (outcome : AcceptanceOutcome) : Event :=
  match outcome.verdict with
  | .accepted => .result outcome
  | .missingJson => .error noWorkflow []
  | .rejected => .error beyondRepair [("hardErrors", .arr (outcome.remaining.map Issue.toJson))]

/-- The constrained attempt, which knows the errors but no plan. -/
def constrained (g : Generator) (request : String) (errors : List String) : Talk Unit := do
  Talk.tell [.fallback "generation"
    ("引导式生成连续 " ++ toString g.policy.attempts ++ " 次未通过校验，改用约束式生成")]
  let heard ← g.ask
    ⟨.constrained, Prompt.generationMessage request none errors, g.policy.constrainedTemperature⟩
  if heard.failed then Talk.tell [.error callFailed [], .done]
  else
    let outcome ← g.judge heard.text
    Talk.tell [conclusion outcome, .done]

def generate (g : Generator) (request : String) : Talk Unit := do
  let plan ← g.plan request
  match ← g.guided request plan g.policy.attempts [] with
  | .accepted outcome => Talk.tell [.result outcome, .done]
  | .exhausted errors => g.constrained request errors

/-- The run of a generation that starts with the first call. -/
def run (g : Generator) (request : String) : Run Unit := g.generate request 0

end Generator

end WorkflowRepair
