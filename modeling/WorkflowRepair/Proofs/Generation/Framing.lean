import WorkflowRepair.Generation.Event
import WorkflowRepair.Proofs.Json.RoundTrip
import WorkflowRepair.Proofs.Text.Search

/-!
Events on the wire. A document is written on one line, so no block has a blank line but the one at
its end; cut behind every blank line the text of events gives back their blocks, and the lines of a
block tell its event.
-/

namespace WorkflowRepair

/-! ### Blocks of a text -/

namespace Text

def blankLine : List Char := ['\n', '\n']

theorem length_lt_of_blankLine {cs before rest : List Char}
    (h : splitFirst? blankLine cs = some (before, rest)) : rest.length < cs.length := by
  rw [splitFirst?_eq_some h, blankLine]
  simp only [List.length_append, List.length_cons]
  omega

/-- The blocks of a text, each up to a blank line, and what is left behind the last of them. -/
def blocks (cs : List Char) : List (List Char) × List Char :=
  match h : splitFirst? blankLine cs with
  | none => ([], cs)
  | some (block, rest) =>
    have : rest.length < cs.length := length_lt_of_blankLine h
    (block :: (blocks rest).1, (blocks rest).2)
termination_by cs.length

variable {block before unbroken rest tail : List Char}

theorem blocks_of_none (none : splitFirst? blankLine rest = none) : blocks rest = ([], rest) := by
  rw [blocks]
  split
  · rfl
  · next found => cases none.symm.trans found

theorem blocks_of_first (first : FirstOf [blankLine] block (blankLine ++ rest)) :
    blocks (block ++ (blankLine ++ rest)) = (block :: (blocks rest).1, (blocks rest).2) := by
  rw [blocks]
  split
  · next none => cases none.symm.trans first.splitFirst?
  · next found =>
    cases found.symm.trans first.splitFirst?
    rfl

/-- With more of a line in front the first blank line stays where it is. -/
theorem FirstOf.behindLine (h : FirstOf [blankLine] before tail) (line : '\n' ∉ unbroken) :
    FirstOf [blankLine] (unbroken ++ before) tail := by
  induction unbroken with
  | nil => exact h
  | cons c unbroken ih =>
    rw [List.mem_cons, not_or] at line
    refine (ih line.2).cons fun word mem front => ?_
    obtain rfl : word = blankLine := List.mem_singleton.1 mem
    exact line.1 (List.cons_prefix_cons.1 front).1

/-- A line break in front of a line that is not empty does not begin a blank line. -/
theorem FirstOf.behindBreak {c : Char} (h : FirstOf [blankLine] (c :: before) tail)
    (filled : c ≠ '\n') : FirstOf [blankLine] ('\n' :: c :: before) tail := by
  refine h.cons fun word mem front => ?_
  obtain rfl : word = blankLine := List.mem_singleton.1 mem
  have second := (List.cons_prefix_cons.1 front).2
  exact filled (List.cons_prefix_cons.1 second).1.symm

theorem firstOf_blankLine (rest : List Char) : FirstOf [blankLine] [] (blankLine ++ rest) :=
  .nil (List.mem_singleton_self _) (List.prefix_append blankLine rest)

end Text

/-! ### Blocks of events -/

namespace Event

open Text

theorem singleLine_name (kind : EventKind) : SingleLine kind.name.toList := by
  cases kind <;> simp [EventKind.name, SingleLine]

/-- A block tells an event by its lines: the last event by one of its own, another one by a line
with its kind and a line with its document, which is read back from it. -/
inductive ToldBy : Event → List Char → Prop
  | last {event : Event} {block : List Char} (done : event.kind = .done)
      (lines : block.splitOn '\n' = ["data: [DONE]".toList]) : ToldBy event block
  | more {event : Event} {block : List Char} {text : String} (other : event.kind ≠ .done)
      (lines : block.splitOn '\n' =
        [("event: " ++ event.kind.name).toList, ("data: " ++ text).toList])
      (unbroken : '\n' ∉ text.toList ∧ '\r' ∉ text.toList) (document : text = event.toJson.render)
      (back : (∀ m ∈ event.payload, m.2.Restorable) → Json.read text = .ok event.toJson) :
      ToldBy event block

theorem restorable_toJson {event : Event} (each : ∀ m ∈ event.payload, m.2.Restorable) :
    event.toJson.Restorable := by
  refine .obj (Members.Keyed.update (List.nodup_singleton _)) ?_
  exact Members.forall_update (List.forall_mem_singleton.2 (.str _)) each

theorem singleLine_document (event : Event) : SingleLine event.toJson.render.toList := by
  rw [Json.render, String.toList_ofList]
  exact Json.singleLine_renderChars event.toJson

theorem singleLine_kind (event : Event) : SingleLine ("event: " ++ event.kind.name).toList := by
  rw [String.toList_append]
  exact .append (by simp [SingleLine]) (singleLine_name event.kind)

theorem singleLine_data (event : Event) : SingleLine ("data: " ++ event.toJson.render).toList := by
  rw [String.toList_append]
  exact .append (by simp [SingleLine]) event.singleLine_document

/-- The lines of an event that is not the last. -/
def twoLines (event : Event) : List Char :=
  ("event: " ++ event.kind.name).toList ++ '\n' :: ("data: " ++ event.toJson.render).toList

theorem toldBy_twoLines {event : Event} (other : event.kind ≠ .done) :
    ToldBy event event.twoLines := by
  have unbroken := event.singleLine_document
  refine .more other ?_ ⟨unbroken.not_mem (by decide), unbroken.not_mem (by decide)⟩ rfl
    fun each => Json.read_render (restorable_toJson each)
  rw [twoLines,
    List.splitOn_append_cons_self_of_not_mem (event.singleLine_kind.not_mem (by decide)),
    List.splitOn_eq_singleton (event.singleLine_data.not_mem (by decide))]

theorem firstOf_twoLines (event : Event) (rest : List Char) :
    FirstOf [blankLine] event.twoLines (blankLine ++ rest) := by
  have data : ("data: " ++ event.toJson.render).toList =
      'd' :: ("ata: " ++ event.toJson.render).toList := by simp
  have begun := (firstOf_blankLine rest).behindLine (event.singleLine_data.not_mem (by decide))
  rw [List.append_nil, data] at begun
  rw [twoLines, data]
  exact (begun.behindBreak (by decide)).behindLine (event.singleLine_kind.not_mem (by decide))

/-- A block is what tells its event, and then the first blank line. -/
theorem exists_block (event : Event) :
    ∃ body, event.block.toList = body ++ blankLine ∧ ToldBy event body ∧
      ∀ rest, FirstOf [blankLine] body (blankLine ++ rest) := by
  by_cases done : event.kind = .done
  · refine ⟨"data: [DONE]".toList, ?_, .last done (List.splitOn_eq_singleton (by decide)), ?_⟩
    · simp [block, isTerminal, done, doneBlock, blankLine]
    · intro rest
      simpa using (firstOf_blankLine rest).behindLine (by decide : '\n' ∉ "data: [DONE]".toList)
  · refine ⟨event.twoLines, ?_, toldBy_twoLines done, event.firstOf_twoLines⟩
    simp [block, isTerminal, done, twoLines, blankLine]

theorem blocks_append (event : Event) (rest : List Char) :
    ∃ body, ToldBy event body ∧ Text.blocks (event.block.toList ++ rest) =
      (body :: (Text.blocks rest).1, (Text.blocks rest).2) := by
  obtain ⟨body, text, told, first⟩ := event.exists_block
  refine ⟨body, told, ?_⟩
  rw [text, List.append_assoc]
  exact blocks_of_first (first rest)

/-- The text of events on the wire has one block for each of them, in their order, that tells it,
and nothing else. -/
theorem blocks_wire (events : List Event) :
    ∃ blocks, Text.blocks (String.join (events.map block)).toList = (blocks, []) ∧
      List.Forall₂ ToldBy events blocks := by
  rw [String.toList_join, List.flatMap_map]
  induction events with
  | nil => exact ⟨[], blocks_of_none rfl, .nil⟩
  | cons event events ih =>
    obtain ⟨blocks, cut, told⟩ := ih
    obtain ⟨body, here, first⟩ :=
      blocks_append event (events.flatMap fun event => event.block.toList)
    refine ⟨body :: blocks, ?_, .cons here told⟩
    rw [List.flatMap_cons, first, cut]

example : (Event.thinking "\n\ndata: [DONE]").block =
    "event: thinking\ndata: \x7b\"type\": \"thinking\", " ++
      "\"content\": \"\\n\\ndata: [DONE]\"\x7d\n\n" := by
  decide +kernel

end Event

end WorkflowRepair
