import WorkflowRepair.Template.Field
import WorkflowRepair.Validation.Finding

/-!
The rule on references: a name has to be the label of a node up to normal form, or to stand for a
kind of which there is exactly one node. An empty name refers to nothing and is let pass.
-/

namespace WorkflowRepair.Validation

def hasLabel (nodes : List Node) (label : String) : Bool :=
  nodes.any fun n => n.isLabelled && Template.normalLabel n.label == label

def namesSingleKind (nodes : List Node) (word : String) : Bool :=
  match NodeKind.ofAlias? word with
  | some kind => nodes.countP (·.isKind kind) == 1
  | none => false

def resolves (nodes : List Node) (name : String) : Bool :=
  name == "" || hasLabel nodes (Template.normalLabel name) || namesSingleKind nodes name

def fieldReferenceFindings (nodes : List Node) (id : String) (field : TextField) : List Finding :=
  ((Template.references field.value).filter fun r => !resolves nodes r.name).map fun r =>
    .onField .unresolvedReference id field.path (some ("无法解析的引用: " ++ Template.braced r.expression))

def referenceFindings (nodes : List Node) : List Finding :=
  nodes.flatMap fun node =>
    (TextField.templates node.data).flatMap (fieldReferenceFindings nodes node.id)

end WorkflowRepair.Validation
