import WorkflowRepair.Fault
import WorkflowRepair.Validation.Finding

/-!
Rules on the settings of nodes, kind by kind. The retrieval rule is structural; the others are for
generated workflows. Only the temperature of a language model can stop the examination, when it is
an integer that no double can hold.
-/

namespace WorkflowRepair.Validation

/-- Whether a value is a text with more than blanks. -/
def isFilled (value : Json) : Bool :=
  match value with
  | .str s => !Text.isBlankText s
  | _ => false

/-- The input mappings of a node, none when they are no object. -/
def mappings (data : Members) : Members := ((Members.getD data "inputMappings").obj?).getD []

/-- The way in which a retrieval node finds its documents. -/
def retrievalMode (data : Members) : String :=
  let given := (Members.getD data "fileMode").strD
  let store := (Members.getD data "fileSearchStoreName").strD
  if given ≠ "" then given
  else if !Text.isBlankText store then "static"
  else if ["files", "files2", "files3"].any fun key => (Members.getD (mappings data) key).isSet then
    "variable"
  else ""

/-- Whether a retrieval node has a query and what its mode needs. -/
def retrievalComplete (data : Members) : Bool :=
  let query := isFilled (Members.getD (mappings data) "query")
  let store := (Members.getD data "fileSearchStoreName").strD
  match retrievalMode data with
  | "variable" =>
    query && ["files", "files2", "files3"].any fun key => (Members.getD (mappings data) key).isSet
  | "static" => query && !Text.isBlankText store
  | _ => false

def retrievalFindings (node : Node) : List Finding :=
  if node.isKind .rag && !retrievalComplete node.data then
    let mode := retrievalMode node.data
    [.onNode .retrieval node.id (some ("fileMode=" ++ if mode = "" then "未配置" else mode))]
  else []

def textSettingFindings (node : Node) : List Finding :=
  ["model", "systemPrompt"].filterMap fun key =>
    match Members.get? node.data key with
    | none | some (.str _) => none
    | some _ => some (.onField .llmSettings node.id ("data." ++ key) (some (key ++ " 必须是字符串")))

/-- The finding on a language model without user input. -/
def userInputFindings (node : Node) : List Finding :=
  if isFilled (Members.getD (mappings node.data) "user_input") then []
  else [.onField .llmInput node.id "data.inputMappings.user_input"
    (some "LLM 节点必须配置 inputMappings.user_input")]

/-- Whether a number lies between 0 and 1. -/
def inUnitInterval (n : Number) : Bool := (Number.int 0).le n && n.le (.int 1)

/-- Whether a temperature is acceptable; an integer is examined as a double. -/
def temperatureAccepted (value : Json) : Except Fault Bool :=
  match value with
  | .num (.int n) =>
    if Double.holdsInt n then .ok (inUnitInterval (.int n)) else .error .integerTooLarge
  | .num (.double d) => .ok (inUnitInterval (.double d))
  | _ => .ok false

def temperatureFindings (node : Node) : Except Fault (List Finding) :=
  match Members.get? node.data "temperature" with
  | none => .ok []
  | some value =>
    match temperatureAccepted value with
    | .error fault => .error fault
    | .ok true => .ok []
    | .ok false =>
      .ok [.onField .llmSettings node.id "data.temperature" (some "temperature 必须是 0-1 之间的数字")]

def responseFormatFindings (node : Node) : List Finding :=
  match Members.get? node.data "responseFormat" with
  | none | some (.str "text") | some (.str "json_object") => []
  | some _ => [.onField .llmSettings node.id "data.responseFormat"
      (some "responseFormat 只能是 \"text\" 或 \"json_object\"")]

/-- The findings on a language model. -/
def llmFindings (node : Node) : Except Fault (List Finding) :=
  match temperatureFindings node with
  | .error fault => .error fault
  | .ok temperature =>
    .ok (textSettingFindings node ++ userInputFindings node ++ temperature
      ++ responseFormatFindings node)

def toolFindings (node : Node) : List Finding :=
  if (Members.getD node.data "toolType").isSet then []
  else [.onField .toolType node.id "data.toolType" none]

def outputFindings (node : Node) : List Finding :=
  let settings := mappings node.data
  let mode := Members.getD settings "mode"
  let sources := ((Members.getD settings "sources").arr?).getD []
  if !mode.isSet then [.onField .outputMode node.id "data.inputMappings.mode" none]
  else match mode with
    | .str "template" =>
      if isFilled (Members.getD settings "template") then []
      else [.onField .outputSources node.id "data.inputMappings.template" none]
    | .str "direct" =>
      if sources.length = 1 then []
      else [.onField .outputSources node.id "data.inputMappings.sources"
        (some "direct 模式必须配置且只能配置一个来源")]
    | .str "select" | .str "merge" =>
      if sources.isEmpty then [.onField .outputSources node.id "data.inputMappings.sources" none]
      else []
    | _ => [.onField .outputMode node.id "data.inputMappings.mode" (some "Output.mode 不合法")]

/-- Whether a character may begin the name of a form field. -/
def startsName (c : Char) : Bool := ('a' ≤ c ∧ c ≤ 'z') ∨ ('A' ≤ c ∧ c ≤ 'Z') ∨ c = '_'

def continuesName (c : Char) : Bool := startsName c ∨ ('0' ≤ c ∧ c ≤ '9')

/-- Whether the characters are those of a name up to the end or one final line feed. -/
def endsLikeName (cs : List Char) : Bool :=
  match cs.dropWhile continuesName with
  | [] => true
  | ['\n'] => true
  | _ => false

/-- Whether a text names a form field; one final line feed is let pass. -/
def isFieldName (s : String) : Bool :=
  match s.toList with
  | [] => false
  | c :: rest => startsName c && endsLikeName rest

def fieldNamed (field : Json) : Bool :=
  match field.field "name" with
  | .str name => isFieldName name
  | _ => false

/-- The finding on the first form field without a proper name, from a place on. -/
def fieldFindings (id : String) (place : Nat) : List Json → List Finding
  | [] => []
  | field :: rest =>
    if fieldNamed field then fieldFindings id (place + 1) rest
    else [.onField .inputForm id ("data.formFields[" ++ toString place ++ "].name") none]

def formFindings (node : Node) : List Finding :=
  if Members.getD node.data "enableStructuredForm" = .bool true then
    match ((Members.getD node.data "formFields").arr?).getD [] with
    | [] => [.onField .inputForm node.id "data.formFields" (some "启用结构化表单时必须配置 formFields")]
    | fields => fieldFindings node.id 0 fields
  else []

/-- Whether a file configuration lists types and has both limits. -/
def fileConfigComplete (config : Json) : Bool :=
  (match config.field "allowedTypes" with
    | .arr (_ :: _) => true
    | _ => false)
  && (config.field "maxSizeMB").num?.isSome && (config.field "maxCount").num?.isSome

def uploadFindings (node : Node) : List Finding :=
  let value := Members.getD node.data
  if value "enableFileInput" = .bool true then
    (if value "enableTextInput" = .bool false then
        [.onField .inputForm node.id "data.enableTextInput" (some "启用文件上传时必须启用文本输入")] else [])
      ++ (if value "textRequired" = .bool true then []
        else [.onField .inputForm node.id "data.textRequired"
          (some "启用文件上传时文本必须为必填 (textRequired=true)")])
      ++ (if fileConfigComplete (value "fileConfig") then []
        else [.onField .inputForm node.id "data.fileConfig" (some "启用文件上传时必须配置 fileConfig")])
  else []

def settingFindings (node : Node) : Except Fault (List Finding) :=
  match node.kind with
  | some .llm => llmFindings node
  | some .tool => .ok (toolFindings node)
  | some .output => .ok (outputFindings node)
  | some .input => .ok (formFindings node ++ uploadFindings node)
  | _ => .ok []

def nodeFindings (profile : Profile) (node : Node) : Except Fault (List Finding) :=
  match profile with
  | .structural => .ok (retrievalFindings node)
  | .generated =>
    match settingFindings node with
    | .error fault => .error fault
    | .ok findings => .ok (retrievalFindings node ++ findings)

def allNodeFindings (profile : Profile) : List Node → Except Fault (List Finding)
  | [] => .ok []
  | node :: rest =>
    match nodeFindings profile node with
    | .error fault => .error fault
    | .ok findings =>
      match allNodeFindings profile rest with
      | .error fault => .error fault
      | .ok more => .ok (findings ++ more)

end WorkflowRepair.Validation
