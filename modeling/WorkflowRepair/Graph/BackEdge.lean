import WorkflowRepair.Graph.Arc

/-!
Depth-first search for an arc that closes a cycle. The search keeps the path from its root and the
nodes it is done with, in the order in which they were finished; an arc to a node of the path closes
a cycle, and when there is none every arc of a finished node leads to a node finished before it.
-/

namespace WorkflowRepair.Graph

variable {ε : Type} [Arc ε]

/-- What a search comes to: a closing arc, or the finished nodes, last first. -/
inductive Search (ε : Type) where
  | closed (edge : ε)
  | finished (done : List String)
deriving Repr

/-- Follows the arcs out of the first node of the path; `visit` searches from a node that was not
met yet. -/
def follow (visit : String → List String → Search ε) (path done : List String) :
    (out : List ε) → Search ε
  | [] => .finished done
  | e :: rest =>
    if path.contains (Arc.target e) then .closed e
    else if done.contains (Arc.target e) then follow visit path done rest
    else match visit (Arc.target e) done with
      | .closed found => .closed found
      | .finished done' => follow visit path (Arc.target e :: done') rest

/-- Searches from a node at the end of a trail; `depth` bounds how far the trail may grow. -/
def search (edges : List ε) : (depth : Nat) → (trail : List String) → (node : String) →
    (done : List String) → Search ε
  | 0, _, _, done => .finished done
  | depth + 1, trail, node, done =>
    follow (search edges depth (node :: trail)) (node :: trail) done (Arc.leaving edges node)

/-- Searches from each node in turn that no earlier search has finished. -/
def searchFrom (edges : List ε) (done : List String) : List String → Search ε
  | [] => .finished done
  | root :: rest =>
    if done.contains root then searchFrom edges done rest
    else match search edges (edges.length + 1) [] root done with
      | .closed e => .closed e
      | .finished done' => searchFrom edges (root :: done') rest

/-- The first arc found to close a cycle, searching from the nodes in order; none in a graph without
cycles. -/
def backEdge? (order : List String) (edges : List ε) : Option ε :=
  match searchFrom edges [] order with
  | .closed e => some e
  | .finished _ => none

end WorkflowRepair.Graph
