import WorkflowRepair.Repair.Defect
import WorkflowRepair.Validation.Edges

/-!
What a defect is called in a message. A node goes by its label where the message is about the node,
and by its id where it is about an edge as written.
-/

namespace WorkflowRepair.Repair

/-- The name of the first node with the id, or the id itself. -/
def nameOf (w : Workflow) (id : String) : String :=
  match w.nodes.find? fun n => n.id == id with
  | some node => if id = "" then id else node.displayName
  | none => id

def quotedName (w : Workflow) (id : String) : String := "\"" ++ nameOf w id ++ "\""

/-- Two names in quotes with an arrow between them. -/
def namedArrow (w : Workflow) (link : String × String) : String :=
  Validation.arrow (quotedName w link.1) (quotedName w link.2)

def describeFlaw (w : Workflow) (flaw : EdgeFlaw) : String :=
  let ends := Validation.arrow flaw.source flaw.target
  let orUnknown (s : String) := if s = "" then "?" else s
  match flaw.kind with
  | .alias side written =>
    let resolved := match side with
      | .source => flaw.source
      | .target => flaw.target
    "规范化连线端点: " ++ side.name ++ " "
      ++ Validation.arrow ("'" ++ written ++ "'") ("'" ++ resolved ++ "'")
  | .dangling =>
    "删除无效边: " ++ Validation.arrow (orUnknown flaw.source) (orUnknown flaw.target) ++ "（节点不存在）"
  | .duplicate => "删除重复边: " ++ ends
  | .cycle => "修复循环依赖: 删除边 " ++ namedArrow w (flaw.source, flaw.target)
  | .strayHandle => "清除普通连线的 sourceHandle: " ++ ends
  | .missingId fresh => "补齐连线 id: " ++ ends ++ " 记为 " ++ fresh

def describe (w : Workflow) : Defect → String
  | .edge flaw => describeFlaw w flaw
  | .orphan id [] => "孤立节点 " ++ quotedName w id ++ " 没有可连接的前驱或后继"
  | .orphan id links =>
    "建议连接孤立节点 " ++ quotedName w id ++ ": " ++ "，".intercalate (links.map (namedArrow w))

/-- All defects of a workflow in words, in the order of their repair. -/
def preview (w : Workflow) (defects : List Defect) : List String := defects.map (describe w)

end WorkflowRepair.Repair
