import WorkflowRepair.Repair.NameMatch
import WorkflowRepair.Template.Field

/-!
Repair of references. Every reference whose name is no label is a defect; where the match is
certain the name is replaced by the label it means, everywhere but in the labels themselves, and
otherwise the defect is reported with what could be meant.
-/

namespace WorkflowRepair

/-- A reference by a name that is no label, where it stands and what the name comes to. -/
structure ReferenceDefect where
  nodeId : String
  fieldPath : String
  reference : Reference
  found : NameMatch
deriving DecidableEq, Repr

/-- The expression that the match is certain to be meant. -/
def ReferenceDefect.replacement? (d : ReferenceDefect) : Option String :=
  d.found.certain?.map d.reference.renamed

/-- What the repair of references comes to. -/
structure HealOutcome where
  workflow : Workflow
  fixes : List String := []
  errors : List String := []
  labels : List String := []
  defects : List ReferenceDefect := []
deriving DecidableEq, Repr

def HealOutcome.changed (o : HealOutcome) : Bool := o.defects.any fun d => d.replacement?.isSome

namespace Repair

def fieldDefects (policy : FuzzyPolicy) (nodes : List Node) (id : String) (field : TextField) :
    List ReferenceDefect :=
  (Template.references field.value).filterMap fun r =>
    (matchName? policy nodes r.name).map fun found => ⟨id, field.path, r, found⟩

def referenceDefects (policy : FuzzyPolicy) (w : Workflow) : List ReferenceDefect :=
  w.nodes.flatMap fun node =>
    (TextField.templates node.data).flatMap (fieldDefects policy w.nodes node.id)

/-- The message on a defect that can be mended, before or after it is. -/
def fixText (applied : Bool) (d : ReferenceDefect) (replacement : String) : String :=
  "节点 '" ++ d.nodeId ++ "': " ++ (if applied then "已将" else "建议将") ++ " '"
    ++ Template.braced d.reference.expression ++ "' 替换为 '" ++ Template.braced replacement ++ "'"

/-- The message on a defect that cannot be mended. -/
def errorText (labels : List String) (d : ReferenceDefect) : String :=
  let written := Template.braced d.reference.expression
  match d.found with
  | .ambiguous candidates =>
    "节点 '" ++ d.nodeId ++ "' 的引用 '" ++ written ++ "' 有歧义: 存在多个该类型节点（"
      ++ ", ".intercalate candidates ++ "），请改用具体的节点名称"
  | .suggestion label _ =>
    "节点 '" ++ d.nodeId ++ "' 引用了不存在的变量 '" ++ written ++ "'，你是不是想用 '" ++ label ++ "'？"
  | _ =>
    "节点 '" ++ d.nodeId ++ "' 引用了不存在的变量 '" ++ written ++ "'。可用节点名称: "
      ++ (if labels.isEmpty then "无" else ", ".intercalate labels)

/-- The messages on the defects that can be mended. -/
def fixTexts (applied : Bool) (defects : List ReferenceDefect) : List String :=
  defects.filterMap fun d => d.replacement?.map (fixText applied d)

/-- The messages on the defects that cannot be mended. -/
def errorTexts (labels : List String) (defects : List ReferenceDefect) : List String :=
  defects.filterMap fun d =>
    match d.replacement? with
    | some _ => none
    | none => some (errorText labels d)

/-- The new expression for a reference whose name has a certain match. -/
def healed? (policy : FuzzyPolicy) (nodes : List Node) (reference : Reference) : Option String :=
  ((matchName? policy nodes reference.name).bind NameMatch.certain?).map reference.renamed

/-- The workflow with the references of all nodes replaced for which `newName` has a new one. -/
def replaceReferences (newName : Reference → Option String) (w : Workflow) : Workflow :=
  { w with nodes := w.nodes.map fun n =>
      { n with data := Members.mapTexts (Template.replace newName) n.data } }

/-- The workflow with every certain match put in. -/
def healReferences (policy : FuzzyPolicy) (w : Workflow) : Workflow :=
  replaceReferences (healed? policy w.nodes) w

/-- Reports on the references and leaves them as they are. -/
def suggestReferences (policy : FuzzyPolicy) (w : Workflow) : HealOutcome :=
  let found := referenceDefects policy w
  let names := labels w.nodes
  { workflow := w, fixes := fixTexts false found, errors := errorTexts names found, labels := names,
    defects := found }

/-- Replaces the references with a certain match and reports on all. -/
def applyReferences (policy : FuzzyPolicy) (w : Workflow) : HealOutcome :=
  let found := referenceDefects policy w
  let names := labels w.nodes
  { workflow := healReferences policy w, fixes := fixTexts true found,
    errors := errorTexts names found, labels := names, defects := found }

end Repair

end WorkflowRepair
