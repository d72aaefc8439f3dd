import WorkflowRepair.Repair.BranchHandles
import WorkflowRepair.Repair.References
import WorkflowRepair.Repair.Structure
import WorkflowRepair.Repair.Terminals

/-!
The whole repair. A round adds missing ends, fills in missing user input, repairs the structure,
the references and the exits of branches; rounds follow each other until one changes nothing, but
no more than four. The result stands only when a validator finds no more in it than in the
workflow that was given.
-/

namespace WorkflowRepair

/-- What a repair is allowed to do. -/
structure FixOptions where
  onlyInvalid : Bool := true
  addTerminals : Bool := false
  fillUserInput : Bool := true
  renameFields : Bool := false
deriving DecidableEq, Repr, Inhabited

/-- A validator to judge the repair by, and how near labels have to be to names. -/
structure Fixer where
  validator : Validator
  policy : FuzzyPolicy := {}
deriving DecidableEq, Repr

/-- What a repair comes to. -/
structure FixOutcome where
  workflow : Workflow
  fixes : List String := []
  findings : List String := []
  before : List Issue := []
  remaining : List Issue := []
  reverted : Bool := false
deriving DecidableEq, Repr

/-- Whether nothing is left to be found. -/
def FixOutcome.isValid (o : FixOutcome) : Bool := o.remaining.isEmpty

namespace Repair

/-- The data of a language model with user input, when it has none yet. -/
def filledData? (reference : String) (node : Node) : Option Members :=
  let given := Validation.mappings node.data
  if node.isKind .llm && !Validation.isFilled (Members.getD given "user_input") then
    some (Members.set node.data "inputMappings"
      (.obj (Members.set given "user_input" (.str reference))))
  else none

/-- Gives the language models without user input that of the only input node, and counts them. -/
def fillUserInput (w : Workflow) : Workflow × Nat :=
  match (w.nodesOfKind .input).filter fun n => n.id ≠ "" with
  | [input] =>
    let reference := referenceTo input "user_input"
    ({ w with nodes := w.nodes.map fun n =>
        match filledData? reference n with
        | some data => { n with data := data }
        | none => n },
      w.nodes.countP fun n => (filledData? reference n).isSome)
  | _ => (w, 0)

def fieldAlias? : NodeKind → String → Option String
  | .input, ".text" => some ".user_input"
  | .llm, ".answer" => some ".response"
  | _, _ => none

/-- The kind of the first node of known kind with exactly the label. -/
def kindLabelled? (nodes : List Node) (label : String) : Option NodeKind :=
  (nodes.find? fun n => n.isLabelled && n.label == label && n.kind.isSome).bind Node.kind

def renamedField? (nodes : List Node) (reference : Reference) : Option String :=
  ((kindLabelled? nodes reference.name).bind (fieldAlias? · reference.path)).map
    (reference.name ++ ·)

def replaceCount (newName : Reference → Option String) (w : Workflow) : Nat :=
  (w.nodes.flatMap fun n => TextField.templates n.data).foldl
    (fun count field => count + Template.replaceCount newName field.value) 0

/-- Gives the fields in references their proper names, and counts the places. -/
def renameFields (w : Workflow) : Workflow × Nat :=
  (replaceReferences (renamedField? w.nodes) w, replaceCount (renamedField? w.nodes) w)

/-- What a round of repair comes to. -/
structure Round where
  workflow : Workflow
  fixes : List String
  findings : List String
deriving DecidableEq, Repr

/-- A text, unless the number it speaks of is zero. -/
def counted (n : Nat) (text : String) : List String := if n = 0 then [] else [text]

def round (fixer : Fixer) (options : FixOptions) (w : Workflow) : Except Fault Round :=
  let completed := if options.addTerminals then complete w else { workflow := w }
  let (filled, patched) :=
    if options.fillUserInput then fillUserInput completed.workflow else (completed.workflow, 0)
  match fixStructure fixer.validator false filled with
  | .error fault => .error fault
  | .ok structured =>
    let healed := applyReferences fixer.policy structured.workflow
    let (renamed, places) :=
      if options.renameFields then renameFields healed.workflow else (healed.workflow, 0)
    let (edges, exits) := settleExits renamed
    .ok {
      workflow := { renamed with edges := edges }
      fixes := completed.fixes
        ++ counted patched ("为 " ++ toString patched ++ " 个 LLM 节点补齐 inputMappings.user_input")
        ++ structured.fixes
        ++ healed.fixes
        ++ counted places
          ("规范化 " ++ toString places ++ " 处字段别名（text → user_input / answer → response）")
        ++ exits.map ExitFix.describe
      findings := structured.findings ++ healed.errors }

/-- The greatest number of rounds. -/
def roundLimit : Nat := 4

/-- Rounds of repair until one changes nothing, at most as many as given; the fixes add up, the
findings are those of the last round. -/
def rounds (fixer : Fixer) (options : FixOptions) : Nat → Round → Except Fault Round
  | 0, current => .ok current
  | n + 1, current =>
    match round fixer options current.workflow with
    | .error fault => .error fault
    | .ok next =>
      if next.workflow = current.workflow then .ok { current with findings := next.findings }
      else rounds fixer options n { next with fixes := current.fixes ++ next.fixes }

end Repair

/-- Repairs a workflow; a valid one is left alone when the options say so. -/
def Fixer.fix (fixer : Fixer) (options : FixOptions) (w : Workflow) : Except Fault FixOutcome :=
  match fixer.validator.reportOn w with
  | .error fault => .error fault
  | .ok before =>
    if options.onlyInvalid && before.isValid then .ok { workflow := w }
    else
      match Repair.rounds fixer options Repair.roundLimit ⟨w, [], []⟩ with
      | .error fault => .error fault
      | .ok last =>
        match fixer.validator.reportOn last.workflow with
        | .error fault => .error fault
        | .ok after =>
          if after.count > before.count then
            .ok { workflow := w, findings := last.findings, before := before.issues,
                  remaining := before.issues, reverted := true }
          else
            .ok { workflow := last.workflow, fixes := last.fixes, findings := last.findings,
                  before := before.issues, remaining := after.issues }

end WorkflowRepair
