import WorkflowRepair.Validation.Edges

/-!
The two exits of a branch. A branch with exactly two edges to nodes of the workflow gets one of
each: a pair that is in order stays, a single good handle decides the other, and otherwise the
edge whose target stands higher on the canvas is the exit for true.
-/

namespace WorkflowRepair.Repair

/-- Why an exit was assigned. -/
inductive ExitReason where
  | complement
  | position
deriving DecidableEq, Repr

def ExitReason.text : ExitReason → String
  | .complement => "补齐互补值"
  | .position => "按目标节点位置分配"

/-- An edge of a branch that got another handle. -/
structure ExitFix where
  branchId : String
  edgeId : Option String
  target : String
  exit : Exit
  reason : ExitReason
deriving DecidableEq, Repr

/-- The fix in words; an edge without an id goes by its target. -/
def ExitFix.describe (fix : ExitFix) : String :=
  let name := match fix.edgeId.filter (· ≠ "") with
    | some id => id
    | none => "→ " ++ fix.target
  "分支 '" ++ fix.branchId ++ "' 的连线 " ++ name ++ " 标记为 " ++ fix.exit.handle
    ++ "（" ++ fix.reason.text ++ "）"

/-- The height of the first placed node with the id. -/
def height? (nodes : List Node) (id : String) : Option Number :=
  if id = "" then none
  else
    (nodes.find? fun n => n.id == id && n.position.isSome).bind fun n => n.position.map Position.y

/-- Whether two heights count as one: the same value, or both undefined. -/
def sameHeight (a b : Number) : Bool :=
  a.same b || (a.extended == .undefined && b.extended == .undefined)

/-- Whether the first edge comes before the second by the id of the target, then by its own. -/
def comesFirst (a b : Edge) : Bool :=
  if a.target = b.target then a.id.getD "" < b.id.getD "" else a.target < b.target

/-- Whether the first edge leads higher than the second: targets with a place come before those
without, then the lesser height, then the order of ids. -/
def leadsHigher (nodes : List Node) (a b : Edge) : Bool :=
  match height? nodes a.target, height? nodes b.target with
  | some x, some y => if sameHeight x y then comesFirst a b else x.lt y
  | some _, none => true
  | none, some _ => false
  | none, none => comesFirst a b

/-- The exits for the two edges of a branch with the reason, unless they are in order. -/
def assignExits (nodes : List Node) (first second : Edge) : Option (ExitReason × Exit × Exit) :=
  match first.exit?, second.exit? with
  | some a, none => some (.complement, a, a.other)
  | none, some b => some (.complement, b.other, b)
  | some a, some b => if a = b then byPosition else none
  | none, none => byPosition
where
  byPosition : Option (ExitReason × Exit × Exit) :=
    if leadsHigher nodes second first then some (.position, .no, .yes)
    else some (.position, .yes, .no)

def exitPlaces (ids : List String) (edges : List Edge) (branch : String) : List Nat :=
  edges.zipIdx.filterMap fun (e, place) =>
    if e.source = branch ∧ ids.contains e.target then some place else none

/-- Gives the edge at a place an exit; a fix is recorded when the handle changes. -/
def setExit (branch : String) (reason : ExitReason) (place : Nat) (exit : Exit)
    (edges : List Edge) : List Edge × List ExitFix :=
  match edges[place]? with
  | none => (edges, [])
  | some edge =>
    if edge.sourceHandle = .str exit.handle then (edges, [])
    else (edges.set place { edge with sourceHandle := .str exit.handle },
      [⟨branch, edge.givenId, edge.target, exit, reason⟩])

def settleBranch (nodes : List Node) (ids : List String) (branch : String) (edges : List Edge) :
    List Edge × List ExitFix :=
  match exitPlaces ids edges branch with
  | [i, j] =>
    match edges[i]?, edges[j]? with
    | some first, some second =>
      match assignExits nodes first second with
      | none => (edges, [])
      | some (reason, a, b) =>
        let (edges₁, fixes₁) := setExit branch reason i a edges
        let (edges₂, fixes₂) := setExit branch reason j b edges₁
        (edges₂, fixes₁ ++ fixes₂)
    | _, _ => (edges, [])
  | _ => (edges, [])

def settleBranches (nodes : List Node) (ids : List String) :
    List String → List Edge → List Edge × List ExitFix
  | [], edges => (edges, [])
  | branch :: rest, edges =>
    let (edges₁, fixes₁) := settleBranch nodes ids branch edges
    let (edges₂, fixes₂) := settleBranches nodes ids rest edges₁
    (edges₂, fixes₁ ++ fixes₂)

/-- The ids of the branch nodes, each once, in order. -/
def branchIds (w : Workflow) : List String := ((w.nodesOfKind .branch).map Node.id).eraseDups

/-- The edges of a workflow with the exits of its branches settled, and what was changed. -/
def settleExits (w : Workflow) : List Edge × List ExitFix :=
  settleBranches w.nodes w.nodeIds (branchIds w) w.edges

end WorkflowRepair.Repair
