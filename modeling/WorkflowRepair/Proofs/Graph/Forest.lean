import WorkflowRepair.Proofs.Graph.Cycle

/-!
The search that does not stop at an arc back to its path but notes it and goes on. It comes to an
end without any bound on its depth, and what the bounded search finds is the first arc that it
notes. Each arc that is noted closes a cycle with arcs by which the search came to new nodes, and
without the first of them the search goes the same way and notes the others.
-/

namespace WorkflowRepair.Graph

open Relation

variable {ε : Type} [Arc ε]

/-- What exploring comes to: the finished nodes, last first; the arcs by which it came to new nodes
and the arcs back to its path, in order. -/
structure Survey (ε : Type) where
  done : List String
  tree : List ε
  closing : List ε

/-- The node at the end of a trail is explored along the arcs out of it. -/
inductive Explored (edges : List ε) :
    (trail : List String) → (node : String) → (done : List String) → (out : List ε) →
      Survey ε → Prop
  | none {trail : List String} {node : String} {done : List String} :
      Explored edges trail node done [] ⟨done, [], []⟩
  | closing {trail : List String} {node : String} {done : List String} {e : ε} {rest : List ε}
      {s : Survey ε} : Arc.target e ∈ node :: trail → Explored edges trail node done rest s →
      Explored edges trail node done (e :: rest) { s with closing := e :: s.closing }
  | known {trail : List String} {node : String} {done : List String} {e : ε} {rest : List ε}
      {s : Survey ε} : Arc.target e ∉ node :: trail → Arc.target e ∈ done →
      Explored edges trail node done rest s → Explored edges trail node done (e :: rest) s
  | tree {trail : List String} {node : String} {done : List String} {e : ε} {rest : List ε}
      {below s : Survey ε} : Arc.target e ∉ node :: trail → Arc.target e ∉ done →
      Explored edges (node :: trail) (Arc.target e) done (Arc.leaving edges (Arc.target e)) below →
      Explored edges trail node (Arc.target e :: below.done) rest s →
      Explored edges trail node done (e :: rest)
        ⟨s.done, e :: below.tree ++ s.tree, below.closing ++ s.closing⟩

/-- Each root that is not finished yet is explored in turn. -/
inductive Surveyed (edges : List ε) : (done roots : List String) → Survey ε → Prop
  | none {done : List String} : Surveyed edges done [] ⟨done, [], []⟩
  | known {done : List String} {root : String} {rest : List String} {s : Survey ε} :
      root ∈ done → Surveyed edges done rest s → Surveyed edges done (root :: rest) s
  | root {done : List String} {root : String} {rest : List String} {below s : Survey ε} :
      root ∉ done → Explored edges [] root done (Arc.leaving edges root) below →
      Surveyed edges (root :: below.done) rest s →
      Surveyed edges done (root :: rest)
        ⟨s.done, below.tree ++ s.tree, below.closing ++ s.closing⟩

variable {edges : List ε} {trail done : List String} {node : String} {out : List ε} {s : Survey ε}

theorem mem_leaving {e : ε} : e ∈ Arc.leaving edges node ↔ e ∈ edges ∧ Arc.source e = node := by
  simp [Arc.leaving]

theorem leaving_subset : Arc.leaving edges node ⊆ edges := fun _ mem => (mem_leaving.1 mem).1

/-! ### Exploring comes to an end -/

theorem exists_explored_out (leave : ∀ e ∈ out, e ∈ edges ∧ Arc.source e = node)
    (visits : ∀ b, Step edges node b → b ∉ node :: trail → ∀ done,
      ∃ s, Explored edges (node :: trail) b done (Arc.leaving edges b) s)
    (done : List String) : ∃ s, Explored edges trail node done out s := by
  induction out generalizing done with
  | nil => exact ⟨_, .none⟩
  | cons e rest ih =>
    obtain ⟨⟨here, source⟩, later⟩ := List.forall_mem_cons.1 leave
    by_cases onPath : Arc.target e ∈ node :: trail
    · obtain ⟨s, explored⟩ := ih later done
      exact ⟨_, .closing onPath explored⟩
    · by_cases known : Arc.target e ∈ done
      · obtain ⟨s, explored⟩ := ih later done
        exact ⟨s, .known onPath known explored⟩
      · obtain ⟨below, under⟩ := visits _ ⟨e, here, source, rfl⟩ onPath done
        obtain ⟨s, explored⟩ := ih later (Arc.target e :: below.done)
        exact ⟨_, .tree onPath known under explored⟩

/-- The trail of a path has room for as many nodes as there are arcs, and no more. -/
theorem exists_explored {room : Nat} (path : Path edges trail node)
    (enough : edges.length ≤ room + trail.length) (done : List String) :
    ∃ s, Explored edges trail node done (Arc.leaving edges node) s := by
  induction room generalizing trail node done with
  | zero =>
    refine exists_explored_out (fun e => mem_leaving.1) (fun b step new done => ?_) done
    have long := (path.step step new).length_le
    rw [List.length_cons] at long
    omega
  | succ room ih =>
    refine exists_explored_out (fun e => mem_leaving.1) (fun b step new done => ?_) done
    refine ih (path.step step new) ?_ done
    rw [List.length_cons]
    omega

theorem exists_surveyed (edges : List ε) (done roots : List String) :
    ∃ s, Surveyed edges done roots s := by
  induction roots generalizing done with
  | nil => exact ⟨_, .none⟩
  | cons root rest ih =>
    by_cases known : root ∈ done
    · obtain ⟨s, surveyed⟩ := ih done
      exact ⟨s, .known known surveyed⟩
    · obtain ⟨below, under⟩ := exists_explored (.start root) (Nat.le_refl edges.length) done
      obtain ⟨s, surveyed⟩ := ih (root :: below.done)
      exact ⟨_, .root known under surveyed⟩

/-! ### The bounded search -/

/-- What a search comes to that stops at the first closing arc. -/
def Survey.found (s : Survey ε) : Search ε :=
  match s.closing with
  | [] => .finished s.done
  | e :: _ => .closed e

theorem Explored.follow_eq (h : Explored edges trail node done out s)
    (leave : ∀ e ∈ out, e ∈ edges ∧ Arc.source e = node) (path : Path edges trail node)
    {depth : Nat} (room : edges.length ≤ depth + trail.length) :
    follow (search edges depth (node :: trail)) (node :: trail) done out = s.found := by
  induction h generalizing depth with
  | none => rfl
  | closing onPath _ ih =>
    rw [follow, if_pos (List.contains_iff_mem.2 onPath)]
    rfl
  | known onPath known _ ih =>
    rw [follow, if_neg (mt List.contains_iff_mem.1 onPath), if_pos (List.contains_iff_mem.2 known)]
    exact ih (List.forall_mem_cons.1 leave).2 path room
  | @tree trail node done e rest below s onPath new _ _ ihBelow ih =>
    obtain ⟨⟨here, source⟩, later⟩ := List.forall_mem_cons.1 leave
    have longer : Path edges (node :: trail) (Arc.target e) :=
      path.step ⟨e, here, source, rfl⟩ onPath
    have short := longer.length_le
    rw [List.length_cons] at short
    cases depth with
    | zero => omega
    | succ depth =>
      have under : search edges (depth + 1) (node :: trail) (Arc.target e) done = below.found :=
        ihBelow (fun e => mem_leaving.1) longer (by rw [List.length_cons]; omega)
      rw [follow, if_neg (mt List.contains_iff_mem.1 onPath),
        if_neg (mt List.contains_iff_mem.1 new), under]
      unfold Survey.found
      cases below.closing with
      | nil => exact ih later path room
      | cons first more => rfl

theorem Surveyed.searchFrom_eq {roots : List String} (h : Surveyed edges done roots s) :
    searchFrom edges done roots = s.found := by
  induction h with
  | none => rfl
  | known known _ ih =>
    rw [searchFrom, if_pos (List.contains_iff_mem.2 known)]
    exact ih
  | @root done root rest below s new under _ ih =>
    have searched : search edges (edges.length + 1) [] root done = below.found :=
      under.follow_eq (fun e => mem_leaving.1) (.start root) (Nat.le_refl _)
    rw [searchFrom, if_neg (mt List.contains_iff_mem.1 new), searched]
    unfold Survey.found
    cases below.closing with
    | nil => exact ih
    | cons first more => rfl

/-- The arc that is found is the first closing arc. -/
theorem Surveyed.backEdge?_eq {order : List String} (h : Surveyed edges [] order s) :
    backEdge? order edges = s.closing.head? := by
  rw [backEdge?, h.searchFrom_eq, Survey.found]
  cases s.closing <;> rfl

/-! ### Closing arcs -/

theorem Explored.tree_subset (h : Explored edges trail node done out s) (leave : out ⊆ edges) :
    s.tree ⊆ edges := by
  induction h with
  | none => exact List.nil_subset _
  | closing _ _ ih => exact ih (List.cons_subset.1 leave).2
  | known _ _ _ ih => exact ih (List.cons_subset.1 leave).2
  | tree _ _ _ _ ihBelow ih =>
    obtain ⟨here, later⟩ := List.cons_subset.1 leave
    exact List.append_subset.2
      ⟨List.cons_subset.2 ⟨here, ihBelow leaving_subset⟩, ih later⟩

theorem Surveyed.tree_subset {roots : List String} (h : Surveyed edges done roots s) :
    s.tree ⊆ edges := by
  induction h with
  | none => exact List.nil_subset _
  | known _ _ ih => exact ih
  | root _ under _ ih => exact List.append_subset.2 ⟨under.tree_subset leaving_subset, ih⟩

/-- Where the path leads to its end by some arcs, a way by these and by the arcs to new nodes leads
from the end of each closing arc to its start. -/
theorem Explored.way_back (h : Explored edges trail node done out s)
    (leave : ∀ e ∈ out, Arc.source e = node) {arcs : List ε} (more : s.tree ⊆ arcs)
    (path : ∀ a ∈ node :: trail, ReflTransGen (Step arcs) a node) :
    ∀ e ∈ s.closing, ReflTransGen (Step arcs) (Arc.target e) (Arc.source e) := by
  induction h with
  | none => exact nofun
  | closing onPath _ ih =>
    obtain ⟨source, later⟩ := List.forall_mem_cons.1 leave
    refine List.forall_mem_cons.2 ⟨?_, ih later more path⟩
    rw [source]
    exact path _ onPath
  | known _ _ _ ih => exact ih (List.forall_mem_cons.1 leave).2 more path
  | @tree trail node done e rest below s _ _ _ _ ihBelow ih =>
    obtain ⟨source, later⟩ := List.forall_mem_cons.1 leave
    obtain ⟨deeper, after⟩ := List.append_subset.1 more
    obtain ⟨here, deeper⟩ := List.cons_subset.1 deeper
    refine List.forall_mem_append.2 ⟨ihBelow (fun e => ?_) deeper ?_, ih later after path⟩
    · exact fun mem => (mem_leaving.1 mem).2
    · refine List.forall_mem_cons.2 ⟨.refl, fun a mem => (path a mem).tail ?_⟩
      exact ⟨e, here, source, rfl⟩

/-- A closing arc closes a cycle with arcs to new nodes. -/
theorem Surveyed.way_back {roots : List String} (h : Surveyed edges done roots s) {arcs : List ε}
    (more : s.tree ⊆ arcs) :
    ∀ e ∈ s.closing, ReflTransGen (Step arcs) (Arc.target e) (Arc.source e) := by
  induction h with
  | none => exact nofun
  | known _ _ ih => exact ih more
  | root _ under _ ih =>
    obtain ⟨deeper, after⟩ := List.append_subset.1 more
    refine List.forall_mem_append.2 ⟨under.way_back (fun e => ?_) deeper ?_, ih after⟩
    · exact fun mem => (mem_leaving.1 mem).2
    · exact List.forall_mem_singleton.2 .refl

/-! ### Leaving out the first closing arc -/

theorem Explored.done_subset (h : Explored edges trail node done out s) : done ⊆ s.done := by
  induction h with
  | none => exact List.Subset.refl _
  | closing _ _ ih => exact ih
  | known _ _ _ ih => exact ih
  | tree _ _ _ _ ihBelow ih =>
    exact List.Subset.trans ihBelow (List.cons_subset.1 ih).2

/-- The arcs out of nodes that are finished before, and of those on the path, play no part. -/
theorem Explored.congr (h : Explored edges trail node done out s) {edges' : List ε}
    (same : ∀ a ∈ s.done, a ∉ done → a ∉ node :: trail →
      Arc.leaving edges' a = Arc.leaving edges a) :
    Explored edges' trail node done out s := by
  induction h with
  | none => exact .none
  | closing onPath _ ih => exact .closing onPath (ih same)
  | known onPath known _ ih => exact .known onPath known (ih same)
  | @tree trail node done e rest below s onPath new under after ihBelow ih =>
    have met : Arc.target e :: below.done ⊆ s.done := after.done_subset
    obtain ⟨here, deeper⟩ := List.cons_subset.1 met
    refine .tree onPath new ?_ (ih fun a mem fresh off => ?_)
    · rw [same _ here new onPath]
      refine ihBelow fun a mem fresh off => same a (deeper mem) fresh ?_
      exact List.not_mem_of_not_mem_cons off
    · refine same a mem (fun old => fresh ?_) off
      exact List.mem_cons_of_mem _ (under.done_subset old)

/-- A closing arc is one of those to be followed or leaves a node that is finished meanwhile. -/
theorem Explored.origin (h : Explored edges trail node done out s) :
    ∀ a ∈ s.closing, a ∈ out ∨
      Arc.source a ∈ s.done ∧ Arc.source a ∉ done ∧ Arc.source a ∉ node :: trail := by
  induction h with
  | none => exact nofun
  | closing _ _ ih =>
    refine List.forall_mem_cons.2 ⟨.inl List.mem_cons_self, fun a mem => ?_⟩
    exact (ih a mem).imp_left (List.mem_cons_of_mem _)
  | known _ _ _ ih => exact fun a mem => (ih a mem).imp_left (List.mem_cons_of_mem _)
  | @tree trail node done e rest below s onPath new under after ihBelow ih =>
    obtain ⟨here, deeper⟩ := List.cons_subset.1 after.done_subset
    refine List.forall_mem_append.2 ⟨fun a mem => .inr ?_, fun a mem => ?_⟩
    · rcases ihBelow a mem with leaves | ⟨finished, fresh, off⟩
      · rw [(mem_leaving.1 leaves).2]
        exact ⟨here, new, onPath⟩
      · exact ⟨deeper finished, fresh, List.not_mem_of_not_mem_cons off⟩
    · rcases ih a mem with later | ⟨finished, fresh, off⟩
      · exact .inl (List.mem_cons_of_mem _ later)
      · refine .inr ⟨finished, fun old => fresh ?_, off⟩
        exact List.mem_cons_of_mem _ (under.done_subset old)

/-- A closing arc is none of the arcs that leave the node before those to be followed. -/
theorem Explored.ne_of_mem_closing (h : Explored edges trail node done out s) {e first : ε}
    (noted : first ∈ s.closing) (apart : e ∉ out) (source : Arc.source e = node) : e ≠ first := by
  rintro rfl
  rcases h.origin e noted with mem | ⟨-, -, off⟩
  · exact apart mem
  · exact List.ne_of_not_mem_cons off source

/-- A closing arc that is noted while a node is explored leaves the node or one that is finished
meanwhile, and none on the path to it. -/
theorem Explored.source_of_closing (h : Explored edges trail node done (Arc.leaving edges node) s)
    (off : node ∉ trail) {first : ε} (noted : first ∈ s.closing) :
    Arc.source first ∈ node :: s.done ∧ Arc.source first ∉ trail := by
  rcases h.origin first noted with leaves | ⟨finished, -, elsewhere⟩
  · rw [(mem_leaving.1 leaves).2]
    exact ⟨List.mem_cons_self, off⟩
  · exact ⟨List.mem_cons_of_mem _ finished, List.not_mem_of_not_mem_cons elsewhere⟩

/-! ### The same for all roots -/

theorem Surveyed.done_subset {roots : List String} (h : Surveyed edges done roots s) :
    done ⊆ s.done := by
  induction h with
  | none => exact List.Subset.refl _
  | known _ _ ih => exact ih
  | root _ under _ ih => exact List.Subset.trans under.done_subset (List.cons_subset.1 ih).2

theorem Surveyed.congr {roots : List String} (h : Surveyed edges done roots s) {edges' : List ε}
    (same : ∀ a ∈ s.done, a ∉ done → Arc.leaving edges' a = Arc.leaving edges a) :
    Surveyed edges' done roots s := by
  induction h with
  | none => exact .none
  | known known _ ih => exact .known known (ih same)
  | @root done root rest below s new under after ih =>
    obtain ⟨here, deeper⟩ := List.cons_subset.1 after.done_subset
    refine .root new ?_ (ih fun a mem fresh => same a mem fun old => fresh ?_)
    · rw [same _ here new]
      exact under.congr fun a mem fresh _ => same a (deeper mem) fresh
    · exact List.mem_cons_of_mem _ (under.done_subset old)

theorem Surveyed.origin {roots : List String} (h : Surveyed edges done roots s) :
    ∀ a ∈ s.closing, Arc.source a ∈ s.done ∧ Arc.source a ∉ done := by
  induction h with
  | none => exact nofun
  | known _ _ ih => exact ih
  | @root done root rest below s new under after ih =>
    obtain ⟨here, deeper⟩ := List.cons_subset.1 after.done_subset
    refine List.forall_mem_append.2 ⟨fun a mem => ?_, fun a mem => ?_⟩
    · rcases under.origin a mem with leaves | ⟨finished, fresh, -⟩
      · rw [(mem_leaving.1 leaves).2]
        exact ⟨here, new⟩
      · exact ⟨deeper finished, fresh⟩
    · obtain ⟨finished, fresh⟩ := ih a mem
      exact ⟨finished, fun old => fresh (List.mem_cons_of_mem _ (under.done_subset old))⟩

section Without

variable {first : ε} {keep : ε → Bool} (keeps : ∀ a ∈ edges, keep a = true ↔ a ≠ first)

theorem leaving_filter : Arc.leaving (edges.filter keep) node =
    (Arc.leaving edges node).filter keep := by
  simp only [Arc.leaving, List.filter_filter, Bool.and_comm]

include keeps

omit [Arc ε] in
theorem filter_eq_self_of_ne (here : out ⊆ edges) (other : first ∉ out) : out.filter keep = out :=
  List.filter_eq_self.2 fun a mem => (keeps a (here mem)).2 fun same => other (same ▸ mem)

theorem leaving_filter_of_ne {a : String} (other : a ≠ Arc.source first) :
    Arc.leaving (edges.filter keep) a = Arc.leaving edges a := by
  rw [leaving_filter]
  refine filter_eq_self_of_ne keeps leaving_subset fun mem => ?_
  exact other (mem_leaving.1 mem).2.symm

/-- What is explored once the start of an arc is finished stays without the arc. -/
theorem Explored.filter_of_done (h : Explored edges trail node done out s)
    (finished : Arc.source first ∈ done) : Explored (edges.filter keep) trail node done out s :=
  h.congr fun _ _ fresh _ => leaving_filter_of_ne keeps fun same => fresh (same ▸ finished)

/-- A node stays explored without an arc that starts at none of the nodes finished meanwhile. -/
theorem Explored.filter_of_elsewhere
    (h : Explored edges trail node done (Arc.leaving edges node) s) (off : node ∉ trail)
    (elsewhere : ∀ a ∈ node :: s.done, a ∉ trail → a ≠ Arc.source first) :
    Explored (edges.filter keep) trail node done (Arc.leaving (edges.filter keep) node) s := by
  rw [leaving_filter_of_ne keeps (elsewhere node List.mem_cons_self off)]
  refine h.congr fun a met _ apart => leaving_filter_of_ne keeps ?_
  exact elsewhere a (List.mem_cons_of_mem _ met) (List.not_mem_of_not_mem_cons apart)

section Tree

variable {e : ε} {rest others : List ε} {below : Survey ε} (onPath : Arc.target e ∉ node :: trail)
  (new : Arc.target e ∉ done)
  (under : Explored edges (node :: trail) (Arc.target e) done
    (Arc.leaving edges (Arc.target e)) below)
  (after : Explored edges trail node (Arc.target e :: below.done) rest s)
  (here : e ∈ edges) (source : Arc.source e = node)
  (later : ∀ a ∈ rest, a ∈ edges ∧ Arc.source a = node)

include onPath new under after here source later

/-- The search goes the same way where the first closing arc is noted behind an arc to a new node,
below which none is. -/
theorem Explored.without_later (apart : e ∉ rest) (low : below.closing = [])
    (noted : first ∈ s.closing)
    (after' : Explored (edges.filter keep) trail node (Arc.target e :: below.done)
      (rest.filter keep) ⟨s.done, s.tree, others⟩) :
    Explored (edges.filter keep) trail node done ((e :: rest).filter keep)
      ⟨s.done, e :: below.tree ++ s.tree, others⟩ := by
  have other : e ≠ first := after.ne_of_mem_closing noted apart source
  have under' : Explored (edges.filter keep) (node :: trail) (Arc.target e) done
      (Arc.leaving (edges.filter keep) (Arc.target e)) below := by
    refine under.filter_of_elsewhere keeps onPath fun a met off => ?_
    rintro rfl
    rcases after.origin first noted with mem | ⟨-, fresh, -⟩
    · exact List.ne_of_not_mem_cons off (later first mem).2
    · exact fresh met
  have explored := Explored.tree onPath new under' after'
  rw [low] at explored
  rwa [List.filter_cons_of_pos ((keeps e here).2 other)]

/-- It does so where the first closing arc is noted below an arc to a new node. -/
theorem Explored.without_below (noted : first ∈ below.closing)
    (under' : Explored (edges.filter keep) (node :: trail) (Arc.target e) done
      ((Arc.leaving edges (Arc.target e)).filter keep) ⟨below.done, below.tree, others⟩) :
    Explored (edges.filter keep) trail node done ((e :: rest).filter keep)
      ⟨s.done, e :: below.tree ++ s.tree, others ++ s.closing⟩ := by
  obtain ⟨finished, off⟩ := under.source_of_closing onPath noted
  have other {a : ε} (leaves : Arc.source a = node) : a ≠ first := by
    rintro rfl
    exact List.ne_of_not_mem_cons off leaves
  have stays : rest.filter keep = rest :=
    filter_eq_self_of_ne keeps (fun a mem => (later a mem).1)
      fun mem => other (later first mem).2 rfl
  rw [← leaving_filter] at under'
  rw [List.filter_cons_of_pos ((keeps e here).2 (other source)), stays]
  exact .tree onPath new under' (after.filter_of_done keeps finished)

end Tree

/-- Without the first closing arc the search goes the same way. That arc is at hand, or it is noted
behind an arc to a known node, behind one to a new node, or below one. -/
theorem Explored.without (h : Explored edges trail node done out s) (distinct : edges.Nodup)
    (leave : ∀ e ∈ out, e ∈ edges ∧ Arc.source e = node) (once : out.Nodup) {others : List ε}
    (closing : s.closing = first :: others) :
    Explored (edges.filter keep) trail node done (out.filter keep) ⟨s.done, s.tree, others⟩ := by
  induction h generalizing others with
  | none => cases closing
  | @closing trail node done e rest s onPath explored ih =>
    obtain ⟨⟨here, source⟩, later⟩ := List.forall_mem_cons.1 leave
    obtain ⟨apart, once⟩ := List.nodup_cons.1 once
    obtain ⟨rfl, rfl⟩ := List.cons.inj closing
    have gone : ¬ keep e = true := fun stays => (keeps e here).1 stays rfl
    rw [List.filter_cons_of_neg gone,
      filter_eq_self_of_ne keeps (fun a mem => (later a mem).1) apart]
    refine explored.congr fun a _ _ off => leaving_filter_of_ne keeps ?_
    rw [source]
    exact List.ne_of_not_mem_cons off
  | @known trail node done e rest s onPath known explored ih =>
    obtain ⟨⟨here, source⟩, later⟩ := List.forall_mem_cons.1 leave
    obtain ⟨apart, once⟩ := List.nodup_cons.1 once
    have other : e ≠ first :=
      explored.ne_of_mem_closing (closing ▸ List.mem_cons_self) apart source
    rw [List.filter_cons_of_pos ((keeps e here).2 other)]
    exact .known onPath known (ih later once closing)
  | @tree trail node done e rest below s onPath new under after ihBelow ih =>
    obtain ⟨⟨here, source⟩, later⟩ := List.forall_mem_cons.1 leave
    obtain ⟨apart, once⟩ := List.nodup_cons.1 once
    cases low : below.closing with
    | nil =>
      rw [low, List.nil_append] at closing
      exact under.without_later keeps onPath new after here source later apart low
        (closing ▸ List.mem_cons_self) (ih later once closing)
    | cons noted more =>
      rw [low, List.cons_append] at closing
      obtain ⟨rfl, rfl⟩ := List.cons.inj closing
      exact under.without_below keeps onPath new after here source later
        (low ▸ List.mem_cons_self) (ihBelow (fun a => mem_leaving.1) (distinct.filter _) low)

theorem Surveyed.without {roots : List String} (h : Surveyed edges done roots s)
    (distinct : edges.Nodup) {others : List ε} (closing : s.closing = first :: others) :
    Surveyed (edges.filter keep) done roots ⟨s.done, s.tree, others⟩ := by
  induction h generalizing others with
  | none => cases closing
  | known known _ ih => exact .known known (ih closing)
  | @root done root rest below s new under after ih =>
    cases low : below.closing with
    | nil =>
      rw [low, List.nil_append] at closing
      obtain ⟨-, fresh⟩ := after.origin first (closing ▸ List.mem_cons_self)
      have under' := under.filter_of_elsewhere keeps List.not_mem_nil fun a met _ same =>
        fresh (same ▸ met)
      have surveyed := Surveyed.root new under' (ih closing)
      rwa [low] at surveyed
    | cons noted more =>
      rw [low, List.cons_append] at closing
      obtain ⟨rfl, rfl⟩ := List.cons.inj closing
      obtain ⟨finished, -⟩ :=
        under.source_of_closing List.not_mem_nil (low ▸ List.mem_cons_self)
      have under' := under.without keeps distinct (fun a => mem_leaving.1) (distinct.filter _) low
      have after' : Surveyed (edges.filter keep) (root :: below.done) rest s :=
        after.congr fun a _ fresh => leaving_filter_of_ne keeps fun same => fresh (same ▸ finished)
      rw [← leaving_filter] at under'
      exact .root new under' after'

end Without

end WorkflowRepair.Graph
