import WorkflowRepair.Yaml.Graph
import WorkflowRepair.Yaml.ReadError

/-!
Merging. A member whose key asks for it is replaced by the members of a mapping, or of several
mappings of which the first counts most; what is merged in stands before the own members, so that
these win. Every step takes one such member away, so their number bounds the steps.
-/

namespace WorkflowRepair.Yaml.Graph

def asksMerge (g : Graph) (pair : Nat × Nat) : Bool := (g.node pair.1).kind = .merge

/-- The number of members that ask for merging. -/
def mergeCount (g : Graph) : Nat :=
  (List.range g.size).foldl (fun count n => count + (g.membersOf n).countP g.asksMerge) 0

/-- Puts merged members before the own ones of a mapping, whose keys are texts from now on when they
stood for a value. -/
def settle (g : Graph) (n : Nat) (merged : List (Nat × Nat)) : Graph :=
  let own := g.membersOf n
  let keys := (own.map Prod.fst).filter fun k => (g.node k).kind = .value
  (keys.foldl (fun g k => g.setKind k .text) g).setMembers n (merged ++ own)

/-- Merges into a mapping what its members ask for, behind what is merged already. -/
def mergeInto : Nat → Nat → List (Nat × Nat) → Graph → Except ReadError Graph
  | 0, n, merged, g => .ok (g.settle n merged)
  | fuel + 1, n, merged, g => do
    let own := g.membersOf n
    match own.findIdx? g.asksMerge with
    | none => .ok (g.settle n merged)
    | some place =>
      let given := ((own[place]?).map Prod.snd).getD n
      let g := g.setMembers n (own.eraseIdx place)
      match (g.node given).content with
      | .members _ =>
        let g ← mergeInto fuel given [] g
        mergeInto fuel n (merged ++ g.membersOf given) g
      | .items numbers =>
        let (lists, g) ← numbers.foldlM (fun (acc : List (List (Nat × Nat)) × Graph) item => do
          if acc.2.isMapping item then
            let g ← mergeInto fuel item [] acc.2
            return (g.membersOf item :: acc.1, g)
          else failAt (acc.2.node item).start) ([], g)
        mergeInto fuel n (merged ++ lists.flatten) g
      | .text _ => failAt (g.node given).start

/-- Merges into a mapping what its members ask for. -/
def merge (g : Graph) (n : Nat) : Except ReadError Graph := mergeInto (g.mergeCount + 1) n [] g

end WorkflowRepair.Yaml.Graph
