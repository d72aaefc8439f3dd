import WorkflowRepair.Yaml.Merge
import WorkflowRepair.Yaml.Value

/-!
From nodes to a document. Every node is checked once: scalars at once, the content of collections
in the order in which these are met, so that the first fault in that order is the one that counts.
The document is put together from the checked nodes.
-/

namespace WorkflowRepair.Yaml

/-- Whether nodes of a kind hold other nodes. -/
def Kind.isCollection (kind : Kind) : Bool :=
  [.sequence, .mapping, .orderedMap, .pairs, .set].contains kind

def Kind.isScalar (kind : Kind) : Bool :=
  [.null, .bool, .int, .float, .binary, .moment, .text].contains kind

/-- The text of a node that is taken for a scalar; a mapping gives the one that stands for its
value. -/
def Graph.textOf (g : Graph) : Nat → Nat → Except ReadError String
  | 0, n => failAt (g.node n).start
  | fuel + 1, n =>
    match (g.node n).content with
    | .text s => .ok s
    | .items _ => failAt (g.node n).start
    | .members pairs =>
      match pairs.find? fun pair => (g.node pair.1).kind = .value with
      | some pair => g.textOf fuel pair.2
      | none => failAt (g.node n).start

/-- The value of a node that is taken for a scalar. -/
def Graph.valueOf (g : Graph) (n : Nat) : Except ReadError Json := do
  let node := g.node n
  if node.kind.isScalar then
    let s ← g.textOf (g.size + 1) n
    if node.kind = .moment && g.isMapping n then failWith .notScalar
    else scalarValue node.kind node.start s
  else failAt node.start

/-- The check of nodes: their graph, the values of the nodes that were met, null for collections,
and the collections whose content is still to be checked. -/
structure Check where
  graph : Graph
  values : Array (Option Json)
  waiting : List Nat := []

namespace Check

def meet (c : Check) (n : Nat) : Except ReadError Check :=
  if (c.values.getD n none).isSome then .ok c
  else if (c.graph.node n).kind.isCollection then
    .ok { c with values := c.values.setIfInBounds n (some .null), waiting := c.waiting ++ [n] }
  else do
    let value ← c.graph.valueOf n
    return { c with values := c.values.setIfInBounds n (some value) }

/-- Meets a key and its value; only a scalar may be a key. -/
def meetMember (c : Check) (pair : Nat × Nat) : Except ReadError Check := do
  let c ← c.meet pair.1
  let key := c.graph.node pair.1
  if key.kind.isCollection then failAt key.start else c.meet pair.2

/-- Meets the only member of an entry of an ordered map. -/
def meetEntry (c : Check) (n : Nat) : Except ReadError Check :=
  match (c.graph.node n).content with
  | .members [pair] => do (← c.meet pair.1).meet pair.2
  | _ => failAt (c.graph.node n).start

def checkContent (c : Check) (n : Nat) : Except ReadError Check :=
  let node := c.graph.node n
  match node.kind, node.content with
  | .sequence, .items numbers => numbers.foldlM meet c
  | .orderedMap, .items numbers | .pairs, .items numbers => numbers.foldlM meetEntry c
  | .mapping, .members _ | .set, .members _ => do
    let graph ← c.graph.merge n
    (graph.membersOf n).foldlM meetMember { c with graph := graph }
  | _, _ => failAt node.start

/-- Checks the collections that wait, and those met on the way. -/
def run : Nat → Check → Except ReadError Check
  | 0, c => .ok c
  | fuel + 1, c =>
    match c.waiting with
    | [] => .ok c
    | n :: rest => do run fuel (← { c with waiting := rest }.checkContent n)

/-- Checks all nodes that can be reached from one; each waits once at most. -/
def ofGraph (g : Graph) (root : Nat) : Except ReadError Check := do
  run (g.size + 1) (← meet { graph := g, values := Array.replicate g.size none } root)

end Check

def keyText : Json → String
  | .str s => s
  | .null => "null"
  | .bool b => if b then "true" else "false"
  | .num n => n.render
  | .arr _ | .obj _ => ""

/-- The number with which a key is compared, in which booleans are zero and one. -/
def keyNumber? : Json → Option Number
  | .bool b => some (.int (if b then 1 else 0))
  | .num n => some n
  | _ => none

/-- Whether two keys are the same; numbers of all kinds are compared by their values. -/
def sameKey (a b : Json) : Bool :=
  match keyNumber? a, keyNumber? b with
  | some m, some n => m.same n
  | none, none => a = b
  | _, _ => false

/-- Sets the value under a key, which keeps the form in which it came first. -/
def setKeyed (pairs : List (Json × Json)) (key value : Json) : List (Json × Json) :=
  if pairs.any fun p => sameKey p.1 key then
    pairs.map fun p => if sameKey p.1 key then (p.1, value) else p
  else pairs ++ [(key, value)]

/-- The object with the given keys and values. -/
def objectOf (pairs : List (Json × Json)) : Json :=
  let own := pairs.foldl (fun acc p => setKeyed acc p.1 p.2) []
  .obj (Members.update [] (own.map fun p => (keyText p.1, p.2)))

/-- The document that a checked node writes, down to some depth. -/
def Check.document (c : Check) : Nat → Nat → Json
  | 0, _ => .null
  | fuel + 1, n =>
    let node := c.graph.node n
    match node.kind, node.content with
    | .sequence, .items numbers => .arr (numbers.map (c.document fuel))
    | .mapping, .members pairs =>
      objectOf (pairs.map fun p => (c.document fuel p.1, c.document fuel p.2))
    | .orderedMap, .items numbers | .pairs, .items numbers =>
      .arr (numbers.map fun item =>
        .arr ((c.graph.membersOf item).flatMap fun p =>
          [c.document fuel p.1, c.document fuel p.2]))
    | _, _ => (c.values.getD n none).getD .null

/-- The document that a node writes; no chain of different nodes is longer than their number. -/
def documentOf (g : Graph) (root : Nat) : Except ReadError Json := do
  let checked ← Check.ofGraph g root
  return checked.document (g.size + 1) root

end WorkflowRepair.Yaml
