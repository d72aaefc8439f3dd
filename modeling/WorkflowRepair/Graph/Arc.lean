/-!
Things that connect two nodes. The analyses of a graph work on any list of them, so that an edge can
carry whatever its user needs to know about it.
-/

namespace WorkflowRepair

/-- A connection from one node id to another. -/
class Arc (ε : Type) where
  source : ε → String
  target : ε → String

namespace Arc

instance : Arc (String × String) := ⟨Prod.fst, Prod.snd⟩

instance {ε : Type} [Arc ε] : Arc (ε × Nat) := ⟨fun e => source e.1, fun e => target e.1⟩

variable {ε : Type} [Arc ε]

def ends (e : ε) : String × String := (source e, target e)

/-- The arcs that leave a node, in order. -/
def leaving (edges : List ε) (id : String) : List ε := edges.filter fun e => source e = id

/-- The nodes of the order, then further sources as they occur, each with the arcs that leave it. -/
def adjacency (order : List String) (edges : List ε) : List (String × List ε) :=
  (order ++ edges.map source).eraseDups.map fun id => (id, leaving edges id)

/-- The nodes at the end of some arc. -/
def linked (edges : List ε) : List String := edges.flatMap fun e => [source e, target e]

end Arc

end WorkflowRepair
