import WorkflowRepair.Catalog

/-!
The standard catalog. Each entry shows its error in a workflow that is as small as possible; many of
them share an input node and an output node that are beyond reproach.
-/

namespace WorkflowRepair.Catalog

/-- A node of a smallest workflow. -/
def sampleNode (id type : String) (data : Members) : Json :=
  .obj [("id", .str id), ("type", .str type), ("data", .obj data)]

/-- An edge of a smallest workflow. -/
def sampleEdge (id source target : String) : Json :=
  .obj [("id", .str id), ("source", .str source), ("target", .str target)]

def sampleExit (id source target handle : String) : Json :=
  .obj [("id", .str id), ("source", .str source), ("target", .str target),
    ("sourceHandle", .str handle)]

def sample (nodes edges : List Json) : Members := [("nodes", .arr nodes), ("edges", .arr edges)]

/-- A label among the data of a node. -/
def labelled (label : String) : String × Json := ("label", .str label)

def inputNode : Json := sampleNode "i" "input" [labelled "Input"]

def outputNode : Json :=
  sampleNode "o" "output" [labelled "Output", ("inputMappings", .obj [("mode", .str "direct"),
    ("sources", .arr [.obj [("type", .str "static"), ("value", .str "ok")]])])]

def branchNode : Json := sampleNode "b" "branch" [labelled "B", ("condition", .str "true")]

/-- The number 0.7. -/
def sevenTenths : Json := .num (.double (Double.ofDecimal false 7 (-1)))

def structuralEntries : List CatalogEntry := [
  ⟨"FFV-SCHEMA-001", .structural, "工作流缺少节点，无法执行。", sample [] [], none⟩,
  ⟨"FFV-SCHEMA-002", .structural, "工作流结构不合法（nodes/edges 必须是数组）。",
    [("nodes", .obj []), ("edges", .null)], none⟩,
  ⟨"FFV-NODE-001", .structural, "存在节点缺少 id 或 type，无法执行。",
    sample [.obj [("type", .str "llm"), ("data", .obj [])]] [], none⟩,
  ⟨"FFV-NODE-002", .structural, "节点 id 重复会导致执行状态冲突，请修正。",
    sample [sampleNode "n1" "input" [labelled "Input"],
      sampleNode "n1" "output" [labelled "Output"]] [], none⟩,
  ⟨"FFV-EDGE-001", .structural, "存在连线缺少 source/target，无法建立依赖关系。",
    sample [inputNode, outputNode] [.obj [("source", .str "i")]], none⟩,
  ⟨"FFV-STRUCT-001", .structural, "检测到循环依赖，工作流无法稳定执行。",
    sample [inputNode, sampleNode "l" "llm" [labelled "LLM"], outputNode]
      [sampleEdge "e1" "i" "l", sampleEdge "e2" "l" "i"],
    some "删除形成环的回边"⟩,
  ⟨"FFV-STRUCT-002", .structural, "存在连线指向不存在的节点，执行会失败。",
    sample [inputNode, outputNode] [sampleEdge "e1" "i" "missing"], none⟩,
  ⟨"FFV-STRUCT-003", .structural, "存在重复连线（相同的 source/target），会导致节点重复触发。",
    sample [inputNode, outputNode] [sampleEdge "e1" "i" "o", sampleEdge "e2" "i" "o"], none⟩,
  ⟨"FFV-STRUCT-004", .structural,
    "存在孤立节点（无法从 Input 到达或无法到达 Output），该节点永远不会生效。",
    sample [inputNode, sampleNode "l" "llm" [labelled "LLM"], outputNode]
      [sampleEdge "e1" "i" "o"], none⟩,
  ⟨"FFV-BRANCH-001", .structural, "条件分支节点必须恰好有两条出边（true/false）。",
    sample [branchNode, outputNode] [sampleExit "e1" "b" "o" "true"], none⟩,
  ⟨"FFV-BRANCH-002", .structural, "条件分支的两条出边必须分别标记为 true 和 false，分支才能路由。",
    sample [branchNode, sampleNode "o1" "output" [labelled "Approved"],
        sampleNode "o2" "output" [labelled "Rejected"]]
      [sampleExit "e1" "b" "o1" "true", sampleExit "e2" "b" "o2" "true"], none⟩,
  ⟨"FFV-BRANCH-003", .structural, "普通节点连线不应包含 sourceHandle（仅分支允许）。",
    sample [inputNode, outputNode] [sampleExit "e1" "i" "o" "true"], none⟩,
  ⟨"FFV-BRANCH-004", .structural, "检测到互斥分支汇聚到同一节点，可能导致节点永远不触发。",
    sample [branchNode, sampleNode "l" "llm" [labelled "LLM"], outputNode]
      [sampleExit "e1" "b" "l" "true", sampleExit "e2" "b" "l" "false", sampleEdge "e3" "l" "o"],
    none⟩,
  ⟨"FFV-RAG-001", .structural, "知识库节点缺少检索配置（variable/static 任一模式必需字段不完整）。",
    sample [sampleNode "r" "rag" [labelled "RAG"], outputNode] [], none⟩]

def generatedEntries : List CatalogEntry := [
  ⟨"FFV-NODE-003", .generated, "存在节点缺少 label，变量引用与展示将失效。",
    sample [sampleNode "n1" "input" [], outputNode] [], none⟩,
  ⟨"FFV-NODE-004", .generated, "存在重复的节点名称（label），会导致变量引用歧义。",
    sample [sampleNode "a" "input" [labelled "User Input"],
      sampleNode "b" "llm" [labelled "user   input", ("model", .str "m"),
        ("systemPrompt", .str "x"), ("temperature", sevenTenths)], outputNode] [], none⟩,
  ⟨"FFV-NODE-005", .generated,
    "节点名称（label）不应使用系统标识前缀（如 node_/edge_/auto_），否则变量引用与排障会极不稳定。",
    sample [sampleNode "i" "input" [labelled "node_123"], outputNode] [], none⟩,
  ⟨"FFV-NODE-006", .generated, "存在未知的节点类型，无法执行。",
    sample [inputNode, sampleNode "w" "webhook" [labelled "Hook"], outputNode] [],
    some "可用类型：input / llm / rag / tool / branch / imagegen / output"⟩,
  ⟨"FFV-GRAPH-001", .generated, "工作流缺少 Input 节点，无法接收用户输入。",
    sample [outputNode] [], none⟩,
  ⟨"FFV-GRAPH-002", .generated, "工作流缺少 Output 节点，无法输出结果。",
    sample [inputNode] [], none⟩,
  ⟨"FFV-BRANCH-005", .generated, "条件分支节点缺少 condition，无法判断走向。",
    sample [inputNode, sampleNode "b" "branch" [labelled "B"], outputNode] [], none⟩,
  ⟨"FFV-LLM-001", .generated, "LLM 节点配置不合法（temperature/responseFormat 等字段不符合约束）。",
    sample [inputNode, sampleNode "l" "llm" [labelled "LLM", ("temperature", .ofInt 2)], outputNode]
      [], none⟩,
  ⟨"FFV-LLM-002", .generated, "LLM 节点缺少 inputMappings.user_input，严格模式下将收到空输入。",
    sample [inputNode, sampleNode "l" "llm" [labelled "LLM", ("model", .str "m"),
      ("systemPrompt", .str ""), ("temperature", sevenTenths)], outputNode] [], none⟩,
  ⟨"FFV-TOOL-001", .generated, "工具节点缺少工具类型（toolType），无法调用。",
    sample [sampleNode "t" "tool" [labelled "Tool"], outputNode] [], none⟩,
  ⟨"FFV-OUTPUT-001", .generated, "Output 节点缺少输出配置（inputMappings.mode），无法渲染结果。",
    sample [inputNode, sampleNode "o" "output" [labelled "Output"]] [], none⟩,
  ⟨"FFV-OUTPUT-002", .generated, "Output 节点输出配置不完整（sources/template 缺失）。",
    sample [inputNode, sampleNode "o" "output" [labelled "Output",
      ("inputMappings", .obj [("mode", .str "template")])]] [], none⟩,
  ⟨"FFV-INPUT-001", .generated, "Input 表单字段配置不合法（name 必须为英文变量名）。",
    sample [sampleNode "i" "input" [labelled "Input", ("enableStructuredForm", .bool true),
      ("formFields", .arr [.obj [("type", .str "text"), ("name", .str "中文字段"),
        ("label", .str "字段"), ("required", .bool false)]])], outputNode] [], none⟩,
  ⟨"FFV-VAR-001", .generated, "存在变量引用指向不存在的节点名称，执行时无法解析。",
    sample [sampleNode "l" "llm" [labelled "LLM", ("model", .str "m"),
      ("systemPrompt", .str "use \x7b\x7bMissing.response\x7d\x7d"),
      ("temperature", sevenTenths)], outputNode, inputNode] [], none⟩]

def standard : Catalog := ⟨"1.2", structuralEntries ++ generatedEntries⟩

end WorkflowRepair.Catalog
