import WorkflowRepair.Yaml.Lexer
import WorkflowRepair.Yaml.Node
import WorkflowRepair.Yaml.Document

/-!
Documents written as YAML. A text is cut into tokens, the tokens make nodes, and the nodes a
document. What is wrong with a text is known by its place, or by the value that one of its scalars
fails to be.
-/

namespace WorkflowRepair.Yaml

/-- Whether a character may stand in a text. -/
def isPrintable (c : Char) : Bool :=
  c = '\t' || c = '\n' || c = '\r' || c = '\x85' || ('\x20' ≤ c && c ≤ '\x7e')
    || ('\u00a0' ≤ c && c ≠ '\ufffe' && c ≠ '\uffff')

/-- The characters of a text with every line ended in the same way. -/
def unifyLines : List Char → List Char
  | [] => []
  | '\r' :: '\n' :: rest => '\n' :: unifyLines rest
  | c :: rest => (if c = '\r' then '\n' else c) :: unifyLines rest

/-- Reads a text; an empty one is null. -/
def read (text : String) : Except ReadError Json := do
  let cs := unifyLines text.toList
  if !cs.all isPrintable then .error .unprintable
  else
    let (found, failure) := tokens (if cs.head? == some '\ufeff' then cs.drop 1 else cs)
    let (graph, root) ← nodesOf found (failure.getD (.malformed {}))
    match root with
    | none => .ok .null
    | some n => documentOf graph n

end WorkflowRepair.Yaml
