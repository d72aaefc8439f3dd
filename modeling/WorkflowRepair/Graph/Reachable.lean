import WorkflowRepair.Graph.Arc

/-!
Reachability along arcs, forwards and backwards, and the two sets of nodes by which a node counts as
connected to the rest of the graph.
-/

namespace WorkflowRepair.Graph

def notInto (id : String) (pairs : List (String × String)) : List (String × String) :=
  pairs.filter fun p => p.2 ≠ id

theorem length_notInto_lt {pairs : List (String × String)} {p : String × String} (h : p ∈ pairs) :
    (notInto p.2 pairs).length < pairs.length :=
  List.length_filter_lt_length_iff_exists.2 ⟨p, h, by simp⟩

/-- Adds to the seen nodes all that can be reached from them along the pairs. -/
def close (pairs : List (String × String)) (seen : List String) : List String :=
  match _found : pairs.find? fun p => seen.contains p.1 && !seen.contains p.2 with
  | none => seen
  | some p => close (notInto p.2 pairs) (p.2 :: seen)
termination_by pairs.length
decreasing_by exact length_notInto_lt (List.mem_of_find?_eq_some _found)

variable {ε : Type} [Arc ε]

/-- The nodes that can be reached from the given ones. -/
def forward (starts : List String) (edges : List ε) : List String :=
  close (edges.map Arc.ends) starts

/-- The nodes from which the given ones can be reached. -/
def backward (starts : List String) (edges : List ε) : List String :=
  close (edges.map fun e => (Arc.target e, Arc.source e)) starts

/-- The nodes that have a way from the front of the graph and those that have a way to its end. -/
structure Coverage where
  forward : List String
  backward : List String
deriving Repr

/-- Whether a node is in both sets. -/
def Coverage.holds (c : Coverage) (id : String) : Bool :=
  c.forward.contains id && c.backward.contains id

/-- The coverage from inputs to outputs; when one of them is missing a node counts as covered when
it has an arc, and a single node is not judged. -/
def coverage? (inputs outputs : List String) (edges : List ε) (count : Nat) : Option Coverage :=
  if !inputs.isEmpty && !outputs.isEmpty then
    some ⟨forward inputs edges, backward outputs edges⟩
  else if count < 2 then none
  else some ⟨Arc.linked edges, Arc.linked edges⟩

end WorkflowRepair.Graph
