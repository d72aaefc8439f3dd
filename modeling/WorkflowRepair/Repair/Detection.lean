import WorkflowRepair.Repair.Defect
import WorkflowRepair.Repair.Endpoint
import WorkflowRepair.Repair.FreshName
import WorkflowRepair.Validation.Edges

/-!
Detection of structural defects. The edges go through the repairs in their order, so every step
sees what the earlier ones leave: ends are resolved, edges without ends dropped, then repeated
edges, then the edges that close cycles; on what is left, handles, reachability and ids are looked
at.
-/

namespace WorkflowRepair

/-- An edge under repair: its place, its resolved ends and the edge itself. -/
structure Link where
  index : Nat
  source : String
  target : String
  edge : Edge
deriving DecidableEq, Repr

instance : Arc Link := ⟨Link.source, Link.target⟩

namespace Link

def flaw (link : Link) (kind : FlawKind) : EdgeFlaw :=
  ⟨kind, link.index, link.source, link.target, link.edge.givenId⟩

end Link

namespace Repair

/-- The link of the edge at a place, when both of its ends can be resolved. -/
def link? (nodes : List Node) (entry : Edge × Nat) : Option Link :=
  match endpoint? nodes entry.1.source, endpoint? nodes entry.1.target with
  | some source, some target => some ⟨entry.2, source, target, entry.1⟩
  | _, _ => none

/-- The links of the edges, without those that dangle. -/
def links (nodes : List Node) (edges : List Edge) : List Link :=
  edges.zipIdx.filterMap (link? nodes)

def endFlaws (nodes : List Node) (entry : Edge × Nat) : List EdgeFlaw :=
  let edge := entry.1
  match link? nodes entry with
  | none => [⟨.dangling, entry.2, edge.source, edge.target, edge.givenId⟩]
  | some link =>
    (if edge.source = link.source then [] else [link.flaw (.alias .source edge.source)])
      ++ (if edge.target = link.target then [] else [link.flaw (.alias .target edge.target)])

/-- The links whose ends no earlier link has. -/
def firstLinks (seen : List (String × String)) : List Link → List Link
  | [] => []
  | link :: rest =>
    if seen.contains (Arc.ends link) then firstLinks seen rest
    else link :: firstLinks (Arc.ends link :: seen) rest

def repeatedLinks (seen : List (String × String)) : List Link → List Link
  | [] => []
  | link :: rest =>
    if seen.contains (Arc.ends link) then link :: repeatedLinks seen rest
    else repeatedLinks (Arc.ends link :: seen) rest

/-- The links that are left and those that are cut when, at most `rounds` times, a link that
closes a cycle is taken out. -/
def cutCycles (order : List String) : (rounds : Nat) → List Link → List Link × List Link
  | 0, links => (links, [])
  | rounds + 1, links =>
    match Graph.backEdge? order links with
    | none => (links, [])
    | some cut =>
      let (kept, more) := cutCycles order rounds (links.filter fun l => l.index ≠ cut.index)
      (kept, cut :: more)

/-- The links left without cycles, and the links cut; every round takes one out. -/
def withoutCycles (order : List String) (links : List Link) : List Link × List Link :=
  cutCycles order links.length links

/-- The links that carry a handle without leaving a branch. -/
def strayLinks (nodes : List Node) (links : List Link) : List Link :=
  links.filter fun l => l.edge.hasHandle && !Validation.hasKind nodes l.source .branch

/-- The place of a node on the way from inputs to outputs; branches come just before the outputs. -/
def rank (node : Node) : Nat :=
  match node.kind with
  | some .input => 0
  | some .branch => 2
  | some .output => 3
  | _ => 1

/-- The nodes by rank, in order within each rank. -/
def ranked (nodes : List Node) : List Node :=
  [0, 1, 2, 3].flatMap fun r => nodes.filter fun n => rank n == r

/-- The edges that would connect a node: from the last node of lower rank when nothing leads to it,
and to the first node of higher rank when it leads nowhere. -/
def proposedLinks (nodes : List Node) (coverage : Graph.Coverage) (node : Node) :
    List (String × String) :=
  let before := ((ranked nodes).filter fun n => rank n < rank node).getLast?
  let after := (ranked nodes).find? fun n => rank node < rank n
  (match before with
    | some n => if coverage.forward.contains node.id then [] else [(n.id, node.id)]
    | none => [])
  ++ (match after with
    | some n => if coverage.backward.contains node.id then [] else [(node.id, n.id)]
    | none => [])

/-- The nodes off every way through the graph, with edges that would connect them. -/
def orphanDefects (nodes : List Node) (links : List Link) : List Defect :=
  match Graph.coverage? (Validation.idsOfKind nodes .input) (Validation.idsOfKind nodes .output)
      links nodes.length with
  | none => []
  | some coverage =>
    (nodes.filter fun n => !coverage.holds n.id).map fun n =>
      .orphan n.id (proposedLinks nodes coverage n)

/-- An id for the edge between two nodes that is not in use. -/
def freshId (source target : String) (used : List String) : String :=
  freshName ("edge_" ++ source ++ "_" ++ target) "_" used

/-- The links without an id, each with the id to take. -/
def idFlaws (used : List String) : List Link → List EdgeFlaw
  | [] => []
  | link :: rest =>
    match link.edge.id with
    | some _ => idFlaws used rest
    | none =>
      let id := freshId link.source link.target used
      link.flaw (.missingId id) :: idFlaws (id :: used) rest

/-- The structural defects of a workflow, in the order of their repair. -/
def defects (w : Workflow) : List Defect :=
  let nodes := distinctNodes w.nodes
  let resolved := links nodes w.edges
  let first := firstLinks [] resolved
  let (kept, cut) := withoutCycles (nodes.map Node.id) first
  (w.edges.zipIdx.flatMap (endFlaws nodes)).map .edge
    ++ (repeatedLinks [] resolved).map (fun l => .edge (l.flaw .duplicate))
    ++ cut.map (fun l => .edge (l.flaw .cycle))
    ++ (strayLinks nodes kept).map (fun l => .edge (l.flaw .strayHandle))
    ++ orphanDefects nodes kept
    ++ (idFlaws (kept.filterMap fun l => l.edge.id) kept).map .edge

end Repair

end WorkflowRepair
