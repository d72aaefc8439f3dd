import WorkflowRepair.Text.Blank
import WorkflowRepair.Workflow.Kind

/-!
What a model is told. The analysis asks for a plan, the guided prompt for a workflow after a plan,
and the constrained prompt for a workflow and nothing else; the message of the user carries the
request with what is known from before.
-/

namespace WorkflowRepair

/-- The instructions under which a model is called. -/
inductive Prompt where
  | analysis
  | guided
  | constrained
deriving DecidableEq, Repr

namespace Prompt

/-- Lines of text, each ended by a line feed. -/
def lines (ls : List String) : String := String.join (ls.map (· ++ "\n"))

def kindList : String := "\n".intercalate (NodeKind.all.map fun kind => "- " ++ kind.name)

/-- The rules that every workflow has to keep. -/
def coreRules : String := lines [
  "## 可用节点类型",
  kindList,
  "",
  "## 必须遵守",
  "1. 每个流程必须有且仅有一个 input 节点和一个 output 节点",
  "2. 引用了节点 A 的变量，就必须有 A → 当前节点的连线",
  "3. 图必须是有向无环图，禁止自环和循环依赖",
  "4. branch 节点恰好两条出边，sourceHandle 分别为 \"true\" 和 \"false\"",
  "5. 互斥的分支路径只能在 output 节点汇聚",
  "6. 节点 label 唯一且非空，不要以 node_ / edge_ / auto_ 开头",
  "",
  "## 变量引用",
  "- 所有引用包裹在 \x7b\x7b \x7d\x7d 中，使用节点的显示名称：\x7b\x7b用户输入.user_input\x7d\x7d",
  "- 禁止使用节点 ID（如 \x7b\x7bnode_1.user_input\x7d\x7d），禁止省略前缀（如 \x7b\x7buser_input\x7d\x7d）",
  "- 表单字段名使用英文：\x7b\x7b用户输入.formData.user_age\x7d\x7d"]

def analysisText : String := lines [
  "你是工作流设计助手。你的任务是深度理解用户需求，而不是简单复述。",
  "",
  "请按顺序输出两个部分：",
  "",
  "<step type=\"analysis\">",
  "核心意图、输入来源、输出期望、隐含假设与边界情况、关键设计决策",
  "</step>",
  "",
  "<plan>",
  "## 需求理解",
  "一句话描述核心目标",
  "",
  "## 工作流结构",
  "- [type:input] 节点名：做什么、输出什么",
  "- [type:llm] 节点名：做什么、输出什么",
  "- [type:output] 节点名：用户最终拿到什么",
  "</plan>",
  "",
  "规则：",
  "- 必须包含 <plan> 标签",
  "- 节点必须带 [type:xxx] 标记，支持: " ++ ", ".intercalate (NodeKind.all.map NodeKind.name),
  "- 不要输出 JSON"]

/-- The instructions for a workflow after a plan. -/
def guidedText : String := lines [
  "你是工作流设计助手。你会收到 <approved_plan>（已确认的方案）与原始需求，",
  "请把方案精准翻译为可执行的工作流 JSON。",
  "",
  "<step type=\"mapping\">",
  "节点清单（NodeID | type | label | 职责）与调用链",
  "</step>",
  "",
  "<step type=\"data_flow\">",
  "每个节点的核心输出字段与下游引用语法",
  "</step>",
  "",
  "<step type=\"verification\">",
  "逐项核对变量引用、连线、分支 sourceHandle 与无环约束，发现问题先自我修正",
  "</step>",
  "",
  "最后直接输出一个 JSON 对象（以 \x7b 开头，以 \x7d 结尾）：",
  "\x7b\"title\": \"工作流名称\", \"nodes\": [...], \"edges\": [...]\x7d",
  "",
  coreRules,
  "规则：",
  "- 任何 <step> 内禁止输出 JSON 或代码块",
  "- JSON 之后不要输出任何额外文本"]

/-- The instructions for a workflow and nothing else. -/
def constrainedText : String := lines [
  "你是工作流 JSON 生成器。只输出一个 JSON 对象，不要输出任何解释、标签或代码块。",
  "",
  "格式：",
  "\x7b\"title\": \"工作流名称\", \"nodes\": [\x7b\"id\": \"...\", \"type\": \"...\", "
    ++ "\"data\": \x7b\"label\": \"...\"\x7d\x7d], "
    ++ "\"edges\": [\x7b\"id\": \"...\", \"source\": \"...\", \"target\": \"...\"\x7d]\x7d",
  "",
  coreRules,
  "需求不明确时，生成 input → llm → output 三节点直链。"]

def text : Prompt → String
  | .analysis => analysisText
  | .guided => guidedText
  | .constrained => constrainedText

def phase : Prompt → String
  | .analysis => "plan"
  | .guided => "generation"
  | .constrained => "constrained"

/-- The part of a message that gives the plan, when there is one. -/
def planPart (plan : Option String) : List String :=
  match plan with
  | some p => if p = "" then [] else ["<approved_plan>\n" ++ Text.strip p ++ "\n</approved_plan>"]
  | none => []

/-- The part of a message that lists errors, when there are some. -/
def errorPart (errors : List String) : List String :=
  if errors.isEmpty then []
  else ["上一次生成的结果存在以下硬错误，请避免：\n" ++ "\n".intercalate (errors.map ("- " ++ ·))]

/-- The message of the user for a generation: the plan, the request and the errors of an earlier
attempt. -/
def generationMessage (request : String) (plan : Option String) (errors : List String) : String :=
  "\n\n".intercalate (planPart plan ++ ["用户需求：" ++ Text.strip request] ++ errorPart errors)

def analysisMessage (request : String) : String := "用户需求: " ++ request

end Prompt

end WorkflowRepair
