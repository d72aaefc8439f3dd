import WorkflowRepair.Workflow

/-!
Workflows written and read again. A node or an edge comes back as it was unless it keeps aside a
member that has a meaning of its own, and nothing that was read does: so a workflow that stems from
a document survives its own document. And what it keeps aside stands there as it was read.
-/

namespace WorkflowRepair

namespace Members

/-- No member has any of the keys. -/
def Free (members : Members) (keys : List String) : Prop := ∀ m ∈ members, m.1 ∉ keys

theorem getD_cons (m : String × Json) (members : Members) (key : String) :
    getD (m :: members) key = if m.1 = key then m.2 else getD members key := by
  by_cases same : m.1 = key <;> simp [getD, get?, same]

theorem Free.getD {members : Members} {keys : List String} {key : String} (h : Free members keys)
    (mem : key ∈ keys) : Members.getD members key = .null := by
  have missing : members.find? (fun m => decide (m.1 = key)) = none := by
    rw [List.find?_eq_none]
    intro m hm same
    exact h m hm (of_decide_eq_true same ▸ mem)
  simp [Members.getD, get?, missing]

theorem Free.without {members : Members} {keys : List String} (h : Free members keys) :
    members.without keys = members := by
  refine List.filter_eq_self.2 fun m hm => ?_
  simpa using h m hm

theorem without_cons (m : String × Json) (members : Members) (keys : List String) :
    without (m :: members) keys =
      if m.1 ∈ keys then without members keys else m :: without members keys := by
  by_cases known : m.1 ∈ keys <;> simp [without, known]

theorem free_without (members : Members) (keys : List String) :
    Free (members.without keys) keys := by
  intro m hm
  simpa using (List.mem_filter.1 hm).2

theorem get?_cons (m : String × Json) (members : Members) (key : String) :
    get? (m :: members) key = if m.1 = key then some m.2 else get? members key := by
  by_cases same : m.1 = key <;> simp [get?, same]

variable {known : List String} {key : String}

theorem get?_without (members : Members) (foreign : key ∉ known) :
    get? (members.without known) key = get? members key := by
  induction members with
  | nil => rfl
  | cons m rest ih =>
    rw [without_cons, get?_cons, ← ih]
    by_cases own : m.1 ∈ known
    · have other : m.1 ≠ key := fun same => foreign (same ▸ own)
      rw [if_pos own, if_neg other]
    · rw [if_neg own, get?_cons]

/-- Members under known keys hide no others. -/
theorem get?_append {front : Members} (rest : Members) (own : ∀ m ∈ front, m.1 ∈ known)
    (foreign : key ∉ known) : get? (front ++ rest) key = get? rest key := by
  induction front with
  | nil => rfl
  | cons m front ih =>
    obtain ⟨here, later⟩ := List.forall_mem_cons.1 own
    have other : m.1 ≠ key := fun same => foreign (same ▸ here)
    rw [List.cons_append, get?_cons, if_neg other, ih later]

end Members

/-- Of an object all members but those under the known keys are there as they were. -/
def Json.KeepsForeign (known : List String) (raw written : Json) : Prop :=
  ∀ members, raw = .obj members → ∃ after, written = .obj after ∧
    ∀ key ∉ known, Members.get? after key = Members.get? members key

theorem Position.ofJson?_toJson (p : Position) : Position.ofJson? p.toJson = some p := rfl

/-- What a node keeps aside has no meaning of its own. -/
def Node.Writable (node : Node) : Prop := Members.Free node.extra Node.knownKeys

theorem Node.writable_ofJson (raw : Json) : (Node.ofJson raw).Writable := by
  cases raw with
  | obj members => exact Members.free_without members knownKeys
  | _ => exact fun m hm => nomatch hm

/-- A node comes back from its document. -/
theorem Node.ofJson_toJson {node : Node} (h : node.Writable) : Node.ofJson node.toJson = node := by
  obtain ⟨id, type, data, position, extra⟩ := node
  have aside : Members.without extra knownKeys = extra := Members.Free.without h
  have unplaced : Members.getD extra "position" = .null := Members.Free.getD h (by decide)
  rw [knownKeys] at aside
  cases position with
  | none =>
    simp [Node.ofJson, Node.toJson, knownKeys, Members.getD_cons, Members.without_cons, Json.strD,
      Json.str?, Json.obj?, unplaced, Position.ofJson?, Json.field, aside]
  | some p =>
    simp [Node.ofJson, Node.toJson, knownKeys, Members.getD_cons, Members.without_cons, Json.strD,
      Json.str?, Json.obj?, Position.ofJson?_toJson, aside]

theorem Node.keepsForeign (raw : Json) :
    Json.KeepsForeign knownKeys raw (Node.ofJson raw).toJson := by
  rintro members rfl
  refine ⟨_, rfl, fun key foreign => ?_⟩
  refine (Members.get?_append _ (fun m mem => ?_) foreign).trans
    (Members.get?_without members foreign)
  rcases List.mem_append.1 mem with mem | mem
  · simp only [List.mem_cons, List.not_mem_nil, or_false] at mem
    rcases mem with rfl | rfl | rfl <;> simp [knownKeys]
  · split at mem
    · rw [List.mem_singleton.1 mem]
      simp [knownKeys]
    · cases mem

/-- What an edge keeps aside has no meaning of its own, and an id that it has is not empty. -/
structure Edge.Writable (edge : Edge) : Prop where
  named : edge.givenId ≠ some ""
  aside : Members.Free edge.extra Edge.knownKeys

theorem Edge.writable_ofJson (raw : Json) : (Edge.ofJson raw).Writable := by
  cases raw with
  | obj members =>
    refine ⟨fun named => ?_, Members.free_without members knownKeys⟩
    have given := (Option.filter_eq_some_iff.1 named).2
    simp at given
  | _ => exact ⟨nofun, fun m hm => nomatch hm⟩

theorem Edge.getD_memberUnlessNull_self {key : String} {rest : Members} (value : Json)
    (unset : Members.getD rest key = .null) :
    Members.getD (memberUnlessNull key value ++ rest) key = value := by
  by_cases missing : value = .null
  · simp [memberUnlessNull, missing, unset]
  · simp [memberUnlessNull, missing, Members.getD_cons]

theorem Edge.getD_memberUnlessNull_of_ne {key key' : String} (value : Json) (rest : Members)
    (other : key ≠ key') :
    Members.getD (memberUnlessNull key value ++ rest) key' = Members.getD rest key' := by
  by_cases missing : value = .null
  · simp [memberUnlessNull, missing]
  · simp [memberUnlessNull, missing, Members.getD_cons, other]

theorem Edge.without_memberUnlessNull_append {key : String} (value : Json) (rest : Members)
    (known : key ∈ knownKeys) :
    Members.without (memberUnlessNull key value ++ rest) knownKeys =
      Members.without rest knownKeys := by
  by_cases missing : value = .null
  · simp [memberUnlessNull, missing]
  · simp [memberUnlessNull, missing, Members.without_cons, known]

/-- An edge comes back from its document. -/
theorem Edge.ofJson_toJson {edge : Edge} (h : edge.Writable) : Edge.ofJson edge.toJson = edge := by
  obtain ⟨source, target, id, sourceHandle, targetHandle, extra⟩ := edge
  obtain ⟨named, free⟩ := h
  have aside : Members.without extra knownKeys = extra := free.without
  have noId : Members.getD extra "id" = .null := free.getD (by decide)
  have noSource : Members.getD extra "sourceHandle" = .null := free.getD (by decide)
  have noTarget : Members.getD extra "targetHandle" = .null := free.getD (by decide)
  have isKnown : "id" ∈ knownKeys ∧ "source" ∈ knownKeys ∧ "target" ∈ knownKeys ∧
      "sourceHandle" ∈ knownKeys ∧ "targetHandle" ∈ knownKeys := by decide
  cases id with
  | none =>
    simp [Edge.ofJson, Edge.toJson, Members.getD_cons, getD_memberUnlessNull_self,
      getD_memberUnlessNull_of_ne, Json.strD, Json.str?, noId, noSource, noTarget,
      Members.without_cons, without_memberUnlessNull_append, isKnown, aside]
  | some id =>
    have given : id ≠ "" := fun empty => named (congrArg some empty)
    simp [Edge.ofJson, Edge.toJson, Members.getD_cons, getD_memberUnlessNull_self,
      getD_memberUnlessNull_of_ne, Json.strD, Json.str?, noSource, noTarget,
      Members.without_cons, without_memberUnlessNull_append, isKnown, aside, given]

theorem Edge.key_of_mem_memberUnlessNull {key : String} {value : Json} {m : String × Json}
    (h : m ∈ memberUnlessNull key value) : m.1 = key := by
  unfold memberUnlessNull at h
  split at h
  · cases h
  · rw [List.mem_singleton.1 h]

theorem Edge.keepsForeign (raw : Json) :
    Json.KeepsForeign knownKeys raw (Edge.ofJson raw).toJson := by
  rintro members rfl
  refine ⟨_, rfl, fun key foreign => ?_⟩
  refine (Members.get?_append _ (fun m mem => ?_) foreign).trans
    (Members.get?_without members foreign)
  rcases List.mem_append.1 mem with mem | mem
  · rcases List.mem_append.1 mem with mem | mem
    · rcases List.mem_append.1 mem with mem | mem
      · split at mem
        · rw [List.mem_singleton.1 mem]
          simp [knownKeys]
        · cases mem
      · simp only [List.mem_cons, List.not_mem_nil, or_false] at mem
        rcases mem with rfl | rfl <;> simp [knownKeys]
    · rw [key_of_mem_memberUnlessNull mem]
      simp [knownKeys]
  · rw [key_of_mem_memberUnlessNull mem]
    simp [knownKeys]

/-- Every node and every edge comes back from its document. -/
structure Workflow.Writable (w : Workflow) : Prop where
  nodes : ∀ n ∈ w.nodes, n.Writable
  edges : ∀ e ∈ w.edges, e.Writable

/-- What was read can be written. -/
theorem Workflow.writable_of_ofRaw {nodes edges : Json} {w : Workflow}
    (h : ofRaw nodes edges = .ok w) : w.Writable := by
  have read {nodes : List Json} : ∀ n ∈ nodes.map Node.ofJson, n.Writable := by
    intro n hn
    obtain ⟨raw, -, rfl⟩ := List.mem_map.1 hn
    exact Node.writable_ofJson raw
  unfold ofRaw at h
  split at h
  · cases h
    refine ⟨read, fun e he => ?_⟩
    obtain ⟨raw, -, rfl⟩ := List.mem_map.1 he
    exact Edge.writable_ofJson raw
  · cases h
    exact ⟨read, nofun⟩
  · cases h

theorem map_read_write {α β : Type} {read : β → α} {write : α → β} {items : List α}
    (h : ∀ a ∈ items, read (write a) = a) : (items.map write).map read = items := by
  rw [List.map_map]
  exact (List.map_congr_left h).trans (List.map_id items)

/-- A workflow comes back from its document. -/
theorem Workflow.ofRaw_toMembers {w : Workflow} (h : w.Writable) :
    ofRaw (Members.getD w.toMembers "nodes") (Members.getD w.toMembers "edges") = .ok w := by
  have nodes : (w.nodes.map Node.toJson).map Node.ofJson = w.nodes :=
    map_read_write fun n hn => Node.ofJson_toJson (h.nodes n hn)
  have edges : (w.edges.map Edge.toJson).map Edge.ofJson = w.edges :=
    map_read_write fun e he => Edge.ofJson_toJson (h.edges e he)
  simp only [toMembers, Members.getD_cons, ofRaw]
  simp only [nodes, edges, reduceIte, String.reduceEq]

end WorkflowRepair
