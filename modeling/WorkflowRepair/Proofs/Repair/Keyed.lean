import WorkflowRepair.Http.Form
import WorkflowRepair.Proofs.Extraction.Leftmost
import WorkflowRepair.Proofs.Repair.FilledReferences

/-!
Keys in the data of nodes. None is given twice where the nodes were read from a text, of a model or
of a request, and no pass of a repair gives one twice: what it fills in is set, and the texts that
it replaces keep their places. So whatever a repair makes of a workflow that was read has such data
too.
-/

namespace WorkflowRepair

open Json (mapTextsItems mapTextsMembers)

/-! ### Texts that are replaced -/

namespace Json

theorem mapTextsMembers_eq_map (f : String → String) (members : Members) :
    mapTextsMembers f members = members.map fun m => (m.1, m.2.mapTexts f) := by
  induction members with
  | nil => rfl
  | cons m rest ih => rw [mapTextsMembers, ih, List.map_cons]

theorem mapTextsItems_eq_map (f : String → String) (items : List Json) :
    mapTextsItems f items = items.map (mapTexts f) := by
  induction items with
  | nil => rfl
  | cons item rest ih => rw [mapTextsItems, ih, List.map_cons]

theorem Keyed.mapTexts {j : Json} (h : j.Keyed) (f : String → String) : (j.mapTexts f).Keyed := by
  induction h with
  | null => exact .null
  | bool b => exact .bool b
  | num n => exact .num n
  | str s => exact .str (f s)
  | arr _ ih =>
    rw [Json.mapTexts, mapTextsItems_eq_map]
    exact .arr (List.forall_mem_map.2 ih)
  | obj once _ ih =>
    rw [Json.mapTexts, mapTextsMembers_eq_map]
    refine .obj ?_ (List.forall_mem_map.2 ih)
    rwa [Members.Keyed, List.map_map]

end Json

/-! ### Workflows -/

/-- No object in the data of the node gives a key twice. -/
def Node.Keyed (n : Node) : Prop := (Json.obj n.data).Keyed

/-- No object in the data of a node gives a key twice. -/
def Workflow.Keyed (w : Workflow) : Prop := ∀ n ∈ w.nodes, n.Keyed

theorem Node.Keyed.keyedData {n : Node} (h : n.Keyed) : Repair.KeyedData n.data :=
  ⟨h.once, (h.getD_members "inputMappings").once⟩

theorem Node.keyed_ofJson {raw : Json} (h : raw.Keyed) : (Node.ofJson raw).Keyed := by
  cases raw with
  | obj members => exact h.getD_members "data"
  | null | bool _ | num _ | str _ | arr _ => exact .obj Members.keyed_nil nofun

theorem Node.Keyed.mapTexts {n : Node} (h : n.Keyed) (f : String → String) :
    Node.Keyed { n with data := n.data.mapTexts f } := by
  refine .obj ?_ (List.forall_mem_map.2 fun m mem => ?_)
  · have keys : (n.data.mapTexts f).map Prod.fst = n.data.map Prod.fst := by
      rw [Members.mapTexts, List.map_map]
      refine List.map_congr_left fun m _ => ?_
      by_cases label : m.1 = "label" <;> simp [label]
    rw [Members.Keyed, keys]
    exact h.once
  · split
    · exact h.each m mem
    · exact (h.each m mem).mapTexts f

namespace Repair

variable {w : Workflow} {fixer : Fixer} {options : FixOptions}

theorem keyed_withUserInput {n : Node} (h : n.Keyed) (text : String) :
    Node.Keyed { n with data := n.data.withUserInput text } :=
  h.set ((h.getD_members "inputMappings").set (.str text))

theorem keyed_fillUserInput (h : w.Keyed) : (fillUserInput w).1.Keyed := by
  rw [fillUserInput_eq]
  refine List.forall_mem_map.2 fun n mem => ?_
  unfold fillNode
  cases found : (userInput? w.nodes).bind fun text => filledData? text n with
  | none => exact h n mem
  | some data =>
    obtain ⟨text, -, filled⟩ := Option.bind_eq_some_iff.1 found
    rw [filledData?_of_lacks (lacks_of_filledData? filled)] at filled
    cases filled
    exact keyed_withUserInput (h n mem) text

theorem keyed_newInput (id label : String) : (newInput id label).Keyed :=
  .obj (List.nodup_singleton _) (List.forall_mem_singleton.2 (.str label))

theorem keyed_newOutput (id label shown : String) : (newOutput id label shown).Keyed := by
  have source : Json.Keyed (.obj [("type", .str "variable"), ("value", .str shown)]) :=
    .pair (by decide) (.str _) (.str _)
  exact .pair (by decide) (.str _)
    (.pair (by decide) (.str _) (.arr (List.forall_mem_singleton.2 source)))

theorem keyed_complete (h : w.Keyed) : (complete w).workflow.Keyed := by
  intro n mem
  rcases mem_complete mem with old | added | added
  · exact h n old
  · obtain ⟨id, used, rfl⟩ := exists_of_inputFor? added
    exact keyed_newInput id _
  · obtain ⟨id, used, shown, rfl⟩ := exists_of_outputFor? added
    exact keyed_newOutput id _ shown

theorem keyed_prepare (h : w.Keyed) : (prepare options w).Keyed :=
  prepare_keeps options h (fun _ => keyed_complete) fun _ => keyed_fillUserInput

theorem keyed_round {r : Round} (h : w.Keyed) (run : round fixer options w = .ok r) :
    r.workflow.Keyed := by
  obtain ⟨s, structural, result⟩ := round_eq_ok run
  rw [result, Workflow.Keyed, nodes_finish, nodes_of_fixStructure structural]
  exact List.forall_mem_map.2 fun n mem => (keyed_prepare h n mem).mapTexts _

end Repair

/-- A repair gives no key twice. -/
theorem Fixer.keyed_of_fix {fixer : Fixer} {options : FixOptions} {w : Workflow} {o : FixOutcome}
    (h : fixer.fix options w = .ok o) (start : w.Keyed) : o.workflow.Keyed :=
  keeps_of_fix h start fun _ _ => Repair.keyed_round

/-! ### Workflows that are read -/

namespace Http

variable {value : String}

theorem Body.keyed_read {found : Json} (h : read (.text value) = .ok found) : found.Keyed := by
  rw [read] at h
  split at h
  · cases h
  · unfold readText at h
    split at h
    · cases h
    · split at h
      · next document =>
        cases h
        exact Json.keyed_readChars document
      · cases h
      · cases h

theorem Body.keyed_members {members : Members} (h : Body.members (.text value) = .ok members) :
    Json.Keyed (.obj members) := by
  unfold Body.members at h
  split at h
  · cases h
  · next document =>
    cases h
    exact keyed_read document
  · cases h

/-- The nodes in the text of a request give no key twice. -/
theorem WorkflowForm.keyed_read {form : WorkflowForm} (h : read (.text value) = .ok form) :
    form.nodes.Keyed := by
  unfold read at h
  split at h
  · cases h
  · next members sent =>
    split at h
    · cases h
    · cases h
      have document := Body.keyed_members sent
      unfold ofMembers
      dsimp only
      cases found : Members.get? members "nodes" with
      | none => exact .arr (List.forall_mem_nil _)
      | some nodes => exact document.get? found

end Http

namespace Workflow

variable {w : Workflow}

theorem keyed_ofRaw {nodes edges : Json} (once : nodes.Keyed)
    (read : ofRaw nodes edges = .ok w) : w.Keyed := by
  cases nodes with
  | arr ns =>
    have given : w.nodes = ns.map Node.ofJson := by
      cases edges <;> cases read <;> rfl
    rw [Workflow.Keyed, given]
    exact List.forall_mem_map.2 fun raw mem => Node.keyed_ofJson (once.items raw mem)
  | null | bool _ | num _ | str _ | obj _ => cases read

/-- The workflow in a text of a model gives no key twice, whatever else stands in the text. -/
theorem keyed_of_payload {key text : String} {payload : Members}
    (found : Extraction.payload? key text = some payload)
    (read : ofRaw (Members.getD payload "nodes") (Members.getD payload "edges") = .ok w) :
    w.Keyed := by
  obtain ⟨i, j, leftmost⟩ := Extraction.payload?_eq_some_iff.1 found
  have document := Json.keyed_readChars leftmost.object.reads
  exact keyed_ofRaw (document.getD "nodes") read

end Workflow

end WorkflowRepair
