import WorkflowRepair.Proofs.Validation.Profiles

/-!
Where the exits of a branch meet. The validation looks at the edges that leave a branch and at no
longer way, so it reports a meeting only beside a repeated edge, and a valid workflow may have ways
from both exits of a branch to one node. On all such ways two edges come together somewhere, and
what follows after them tells whether the exits meet before an output.
-/

namespace WorkflowRepair

open Relation

namespace Graph

variable {ε : Type} [Arc ε] {edges : List ε} {e f g : ε} {a b : String}

/-- An arc on some way that starts with the given one. -/
def Follows (edges : List ε) (e g : ε) : Prop :=
  g = e ∨ ReflTransGen (Step edges) (Arc.target e) (Arc.source g)

theorem Follows.way (h : Follows edges e g) (mem : g ∈ edges) :
    ReflTransGen (Step edges) (Arc.target e) (Arc.target g) := by
  rcases h with rfl | way
  · exact .refl
  · exact way.tail ⟨g, mem, rfl, rfl⟩

/-- A way that starts with an arc ends with one. -/
theorem exists_follows (mem : e ∈ edges) (way : ReflTransGen (Step edges) (Arc.target e) a) :
    ∃ g ∈ edges, Follows edges e g ∧ Arc.target g = a := by
  cases way with
  | refl => exact ⟨e, mem, .inl rfl, rfl⟩
  | tail before last =>
    obtain ⟨g, here, rfl, enters⟩ := last
    exact ⟨g, here, .inr before, enters⟩

/-- No arc of a node lies on a way that starts with another arc of the node. -/
theorem not_follows_sibling (acyclic : Acyclic edges) (mem : e ∈ edges)
    (siblings : Arc.source e = Arc.source f) (apart : e ≠ f) : ¬ Follows edges e f := by
  rintro (same | way)
  · exact apart same.symm
  · exact acyclic _ (.head' ⟨e, mem, rfl, rfl⟩ (siblings ▸ way))

/-- Where ways from two arcs of one node lead to a node, two arcs come together on the way. The
induction is on the first way; at its first node that the second arc leads to, too, they do. -/
theorem exists_meeting (acyclic : Acyclic edges) (here : e ∈ edges) (there : f ∈ edges)
    (siblings : Arc.source e = Arc.source f) (apart : e ≠ f)
    (way : ReflTransGen (Step edges) (Arc.target e) a)
    (way' : ReflTransGen (Step edges) (Arc.target f) a) :
    ∃ g ∈ edges, ∃ h ∈ edges, Follows edges e g ∧ Follows edges f h ∧ g ≠ h ∧
      Arc.target g = Arc.target h ∧ ReflTransGen (Step edges) (Arc.target g) a := by
  induction way with
  | refl =>
    obtain ⟨h, mem, follows, enters⟩ := exists_follows there way'
    refine ⟨e, here, h, mem, .inl rfl, follows, ?_, enters.symm, .refl⟩
    rintro rfl
    exact not_follows_sibling acyclic there siblings.symm apart.symm follows
  | @tail before last way step ih =>
    by_cases common : ReflTransGen (Step edges) (Arc.target f) before
    · obtain ⟨g, mem, h, mem', follows, follows', distinct, meet, rest⟩ := ih common
      exact ⟨g, mem, h, mem', follows, follows', distinct, meet, rest.tail step⟩
    · obtain ⟨g, mem, leaves, enters⟩ := step
      obtain ⟨h, mem', follows, enters'⟩ := exists_follows there way'
      have onWay : Follows edges e g := .inr (leaves ▸ way)
      refine ⟨g, mem, h, mem', onWay, follows, ?_, enters.trans enters'.symm, enters ▸ .refl⟩
      rintro rfl
      rcases follows with rfl | toEnd
      · exact not_follows_sibling acyclic here siblings apart onWay
      · exact common (leaves ▸ toEnd)

end Graph

namespace Validation

variable {nodes : List Node} {edges : List Edge} {b : Node} {e f : Edge}

/-! ### What the validation reports -/

/-- A pair of ends that repeats is reported. -/
theorem exists_duplicate {seen : List (String × String)} (h : ¬ Fresh Edge.pair seen edges) :
    ∃ finding ∈ connectionFindings nodes seen edges, finding.rule = .duplicateEdge := by
  induction edges generalizing seen with
  | nil => exact absurd ⟨List.nodup_nil, nofun⟩ h
  | cons edge rest ih =>
    unfold connectionFindings
    by_cases old : edge.pair ∈ seen
    · rw [if_pos (List.contains_iff_mem.2 old)]
      exact ⟨_, List.mem_cons_self, rfl⟩
    · have later : ¬ Fresh Edge.pair (edge.pair :: seen) rest :=
        fun fresh => h (fresh_cons.2 ⟨old, fresh⟩)
      obtain ⟨finding, mem, duplicate⟩ := ih later
      exact ⟨finding, List.mem_append_right _ mem, duplicate⟩

/-- A meeting of exits is found only beside a repeated edge. -/
theorem duplicate_of_meeting {profile : Profile} {found : List Finding}
    (h : findings profile nodes edges = .ok found) (meets : ∃ f ∈ found, f.rule = .branchesMeet) :
    ∃ f ∈ found, f.rule = .duplicateEdge := by
  obtain ⟨finding, mem, meets⟩ := meets
  have other {rules : List Rule} {part : List Finding} (reports : Reports rules part)
      (none : Rule.branchesMeet ∉ rules) : finding ∉ part :=
    fun here => none (meets ▸ reports finding here)
  unfold findings at h
  split at h
  · rw [← Except.ok.inj h, List.mem_singleton] at mem
    rw [mem] at meets
    cases meets
  · dsimp only at h
    split at h
    · cases h
    · next settings examined =>
      rw [← Except.ok.inj h] at mem ⊢
      have naming : finding ∉ if profile = .generated then
          namingFindings (soundNodes [] nodes) ++ presenceFindings (soundNodes [] nodes) else [] :=
        other (.ite (fun _ => .append ((reports_naming _).mono (List.subset_append_left _ _))
          ((reports_presence _).mono (List.subset_append_right _ _))) fun _ => .nil) (by decide)
      have references : finding ∉ if profile = .generated then
          referenceFindings (soundNodes [] nodes) else [] :=
        other (.ite (fun _ => reports_references _) fun _ => .nil) (by decide)
      simp only [List.mem_append, other (reports_identity _ _) (by decide), naming,
        other (reports_edges _ _) (by decide), other (reports_branches _ _ _) (by decide),
        other (reports_cycle _ _) (by decide), other (reports_orphans _ _) (by decide),
        other (reports_allNodes examined) (by decide), references, false_or, or_false] at mem
      have repeats : ¬ Fresh Edge.pair [] (soundEdges (soundNodes [] nodes) edges) := by
        intro fresh
        rw [meetingFindings_eq_nil (fresh_nil_iff.1 fresh)] at mem
        cases mem
      obtain ⟨duplicate, known, rule⟩ := @exists_duplicate (soundNodes [] nodes) _ _ repeats
      refine ⟨duplicate, ?_, rule⟩
      simp only [List.mem_append, edgeFindings, known, or_true, true_or]

/-! ### Exits of a branch -/

/-- A branch with the edges that leave it by its two exits. -/
structure Exits (nodes : List Node) (edges : List Edge) (b : Node) (e f : Edge) : Prop where
  known : b ∈ nodes
  branch : b.isKind .branch = true
  yes : e ∈ edges ∧ e.source = b.id ∧ e.exit? = some .yes
  no : f ∈ edges ∧ f.source = b.id ∧ f.exit? = some .no

/-- No node but an output can be reached from both ids. -/
def Apart (nodes : List Node) (edges : List Edge) (x y : String) : Prop :=
  ∀ n ∈ nodes, ReflTransGen (Graph.Step edges) x n.id → ReflTransGen (Graph.Step edges) y n.id →
    n.isKind .output = true

/-- Where two edges come together, one after each of the given edges, only outputs follow. -/
def JoinsAtOutputs (nodes : List Node) (edges : List Edge) (e f : Edge) : Prop :=
  ∀ g ∈ edges, ∀ g' ∈ edges, Graph.Follows edges e g → Graph.Follows edges f g' → g ≠ g' →
    g.target = g'.target → ∀ n ∈ nodes, ReflTransGen (Graph.Step edges) g.target n.id →
      n.isKind .output = true

theorem Exits.ne (h : Exits nodes edges b e f) : e ≠ f := by
  rintro rfl
  have same := h.yes.2.2.symm.trans h.no.2.2
  cases same

theorem Exits.apart_iff (h : Exits nodes edges b e f) (acyclic : Graph.Acyclic edges) :
    Apart nodes edges e.target f.target ↔ JoinsAtOutputs nodes edges e f := by
  obtain ⟨here, leaves, -⟩ := h.yes
  obtain ⟨there, leaves', -⟩ := h.no
  constructor
  · intro apart g mem g' mem' follows follows' _ meet n known way
    have way' : ReflTransGen (Graph.Step edges) g'.target n.id := meet ▸ way
    exact apart n known (.trans (follows.way mem) way) (.trans (follows'.way mem') way')
  · intro outputs n known way way'
    obtain ⟨g, mem, g', mem', follows, follows', distinct, meet, rest⟩ :=
      Graph.exists_meeting acyclic here there (leaves.trans leaves'.symm) h.ne way way'
    exact outputs g mem g' mem' follows follows' distinct meet n known rest

theorem Exits.target_ne (h : Exits nodes edges b e f) (simple : (edges.map Edge.pair).Nodup) :
    e.target ≠ f.target := by
  intro same
  obtain ⟨here, leaves, -⟩ := h.yes
  obtain ⟨there, leaves', -⟩ := h.no
  have pairs : e.pair = f.pair := Prod.ext (leaves.trans leaves'.symm) same
  exact h.ne (List.inj_on_of_nodup_map simple here there pairs)

end Validation

/-! ### Reports -/

namespace Validator

open Validation

variable {v : Validator} {nodes : List Node} {edges : List Edge} {report : Report}

/-- What a validator of any profile lets pass is well formed. -/
theorem wellFormed_of_isValid (run : v.report nodes edges = .ok report)
    (valid : report.isValid = true) : WellFormed nodes edges := by
  obtain ⟨found, structural, none⟩ := structural_findings nodes edges
  refine none.1 ?_
  simp only [Validator.report] at run
  split at run
  · cases run
  · next all given =>
    have clean : all = [] := by
      rw [← Except.ok.inj run] at valid
      simpa [Report.isValid] using valid
    subst clean
    cases profile : v.profile with
    | structural =>
      rw [profile] at given
      exact Except.ok.inj (structural.symm.trans given)
    | generated =>
      rw [profile] at given
      exact Except.ok.inj (structural.symm.trans (findings_nest given))

/-- A meeting of the exits of a branch is never the only issue. -/
theorem has_duplicate_of_meeting (run : v.report nodes edges = .ok report)
    (meets : report.has Rule.branchesMeet.code = true) :
    report.has Rule.duplicateEdge.code = true := by
  simp only [Validator.report] at run
  split at run
  · cases run
  · next found given =>
    rw [← Except.ok.inj run, Report.has_code_iff] at meets ⊢
    exact duplicate_of_meeting given meets

/-- In a valid workflow the exits of a branch never lead straight to one node. They stay apart up to
the outputs exactly when the edges after them come together at outputs only. -/
theorem exits_apart_iff (run : v.report nodes edges = .ok report) (valid : report.isValid = true)
    {b : Node} {e f : Edge} (exits : Exits nodes edges b e f) :
    e.target ≠ f.target ∧
      (Apart nodes edges e.target f.target ↔ JoinsAtOutputs nodes edges e f) := by
  have formed := wellFormed_of_isValid run valid
  exact ⟨exits.target_ne formed.simple, exits.apart_iff formed.acyclic⟩

/-- A language model with a fixed prompt. -/
def speaker (id label : String) : Node :=
  { id := id, type := "llm"
    data := [("label", .str label), ("inputMappings", .obj [("user_input", .str "hello")])] }

/-- Where a branch leads to the nodes `x` and `y`, and on to further nodes. -/
def forked (between : List Node) (joins : List Edge) : Workflow :=
  { nodes := { id := "i", type := "input", data := [("label", .str "In")] } ::
      { id := "b", type := "branch", data := [("label", .str "B"), ("condition", .str "c")] } ::
      { id := "o", type := "output"
        data := [("label", .str "Out"),
          ("inputMappings", .obj [("mode", .str "direct"), ("sources", .arr [.str "X"])])] } ::
      speaker "x" "X" :: speaker "y" "Y" :: between
    edges := { source := "i", target := "b" } ::
      { source := "b", target := "x", sourceHandle := .str "true" } ::
      { source := "b", target := "y", sourceHandle := .str "false" } :: joins }

/-- The exits of the branch meet at the output. -/
def fork : Workflow :=
  forked [] [{ source := "x", target := "o" }, { source := "y", target := "o" }]

theorem exits_apart_iff_fork : Apart fork.nodes fork.edges "x" "y" := by
  obtain ⟨report, run, valid⟩ : ∃ report, Validator.report ⟨.standard, .structural⟩ fork.nodes
      fork.edges = .ok report ∧ report.isValid = true := exists_valid (by decide +kernel)
  have last : ∀ e ∈ fork.edges, e.source ≠ "o" := by decide
  have output : ∀ n ∈ fork.nodes, n.id = "o" → n.isKind .output = true := by decide
  have meets : ∀ g ∈ fork.edges, ∀ g' ∈ fork.edges, g ≠ g' → g.target = g'.target →
      g.target = "o" := by decide
  refine (exits_apart_iff run valid (b := fork.nodes[1])
    (e := fork.edges[1]) (f := fork.edges[2])
    ⟨by decide, by decide, by decide, by decide⟩).2.2 ?_
  intro g mem g' mem' _ _ distinct meet n known way
  rw [meets g mem g' mem' distinct meet] at way
  refine output n known ?_
  rcases way.cases_head with same | ⟨_, ⟨e, here, leaves, -⟩, -⟩
  · exact same.symm
  · exact absurd leaves (last e here)

/-- The exits of the branch meet at `z`, two edges after the branch. -/
def diamond : Workflow :=
  forked [speaker "z" "Z"] [{ source := "x", target := "z" }, { source := "y", target := "z" },
    { source := "z", target := "o" }]

/-- The diamond is valid under every profile, and from both exits of its branch a node is reached
that is no output. -/
theorem not_apart_diamond :
    (∀ profile, ∃ report, Validator.report ⟨.standard, profile⟩ diamond.nodes diamond.edges =
      .ok report ∧ report.isValid = true) ∧
      ∃ b e f, Exits diamond.nodes diamond.edges b e f ∧
        ¬ Apart diamond.nodes diamond.edges e.target f.target := by
  have valid : ∀ profile ∈ Profile.all,
      (Validator.report ⟨.standard, profile⟩ diamond.nodes diamond.edges).toOption.map
        Report.isValid = some true := by decide +kernel
  refine ⟨fun profile => exists_valid (valid profile (by cases profile <;> decide)),
    diamond.nodes[1], diamond.edges[1], diamond.edges[2],
    ⟨by decide, by decide, by decide, by decide⟩, fun apart => ?_⟩
  · have before : Graph.Step diamond.edges "x" "z" := ⟨diamond.edges[3], by decide, rfl, rfl⟩
    have before' : Graph.Step diamond.edges "y" "z" := ⟨diamond.edges[4], by decide, rfl, rfl⟩
    have output := apart (speaker "z" "Z") (by decide) (.single before) (.single before')
    exact absurd output (by decide)

end Validator

end WorkflowRepair
