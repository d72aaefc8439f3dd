import WorkflowRepair.Proofs.Generation.Attempts
import WorkflowRepair.Proofs.TagStream.Tags

/-!
The blocks in which an answer is told. Each tag of the answer makes one block: a plan is told as
thinking, any other tag as a step that is begun, goes on with the text in the tag and is completed.
No block begins before the one in front of it is over, and a tag that is left open is completed when
the answer is over. An answer that is cut short is told in the same way, with one error put
in where it was cut.
-/

namespace WorkflowRepair

open TagStream (Tag Tagged tagEvents)

/-! ### Blocks -/

/-- The type of the step that the tag makes. -/
def TagStream.Tag.stepType (tag : Tag) : String := Narration.stepType tag.name tag.attributes

/-- The events are the blocks of the tags, one after another. -/
inductive Blocks : List Tag → List Event → Prop
  | nil : Blocks [] []
  | plan {tag : Tag} {tags : List Tag} {events : List Event} (pieces : List String)
      (named : tag.name = "plan") (whole : String.join pieces = tag.text)
      (later : Blocks tags events) : Blocks (tag :: tags) (pieces.map .thinking ++ events)
  | step {tag : Tag} {tags : List Tag} {events : List Event} (pieces : List String)
      (named : tag.name ≠ "plan") (whole : String.join pieces = tag.text)
      (later : Blocks tags events) :
      Blocks (tag :: tags)
        (.step tag.stepType .streaming "" :: (pieces.map (.step tag.stepType .streaming) ++
          .step tag.stepType .completed "" :: events))

/-! ### The blocks of what is told -/

namespace Narration

theorem tellAll_contents_plan (pieces : List String) (plan : String) :
    ({ inPlan := true, plan := plan } : Narration).tellAll (pieces.map .content) =
      (pieces.map .thinking, { inPlan := true, plan := plan ++ String.join pieces }) := by
  induction pieces generalizing plan with
  | nil => simp [tellAll]
  | cons piece pieces ih => simp [tellAll_cons, tell, ih, String.append_assoc]

theorem tellAll_contents_step (pieces : List String) (type plan : String) :
    ({ step := some type, plan := plan } : Narration).tellAll (pieces.map .content) =
      (pieces.map (.step type .streaming), { step := some type, plan := plan }) := by
  induction pieces with
  | nil => rfl
  | cons piece pieces ih => simp [tellAll_cons, tell, ih]

/-- The pieces of a tag are told as a block, whether the tag is closed or left open. -/
theorem blocks_tag {tag : Tag} {tags : List Tag} {pieces : List String} {event : TagEvent}
    {more : List TagEvent} (plan : String) (whole : String.join pieces = tag.text)
    (ends : event = .closed tag.name ∨ event = .endOfStream)
    (later : ∀ plan, Blocks tags (({ plan := plan } : Narration).tellAll more).1) :
    Blocks (tag :: tags) (({ plan := plan } : Narration).tellAll
      (.opened tag.name tag.attributes :: (pieces.map .content ++ event :: more))).1 := by
  by_cases named : tag.name = "plan"
  · have told := Blocks.plan pieces named whole (later (plan ++ String.join pieces))
    rcases ends with rfl | rfl
    all_goals simpa [tellAll_cons, tellAll_append, tell, named, tellAll_contents_plan] using told
  · have told := Blocks.step pieces named whole (later plan)
    rcases ends with rfl | rfl
    all_goals simpa [tellAll_cons, tellAll_append, tell, named, tellAll_contents_step, Tag.stepType]
      using told

/-- What is told of a report in pieces are the blocks of the tags that are reported. -/
theorem blocks_tellAll {tags : List Tag} {left : Option Tag} {events : List TagEvent}
    (plan : String) (h : TagStream.coalesce events = tagEvents left tags) :
    Blocks (tags ++ left.toList) (({ plan := plan } : Narration).tellAll events).1 := by
  induction tags generalizing events plan with
  | nil =>
    cases left with
    | none =>
      obtain ⟨more, rfl, nothing⟩ := TagStream.exists_of_coalesce_eq_cons rfl h
      cases TagStream.coalesce_eq_nil nothing
      exact .nil
    | some tag =>
      obtain ⟨pieces, more, rfl, whole, nothing⟩ := tag.exists_pieces rfl h
      cases TagStream.coalesce_eq_nil nothing
      exact blocks_tag plan whole (.inr rfl) fun _ => .nil
  | cons tag tags ih =>
    obtain ⟨pieces, more, rfl, whole, rest⟩ := tag.exists_pieces rfl h
    exact blocks_tag plan whole (.inl rfl) fun plan => ih plan rest

end Narration

/-! ### Answers that are cut short -/

namespace Heard

/-- What is told where an answer ends: nothing where it is over, one error of the time-out or of
the phase where it is cut short. -/
inductive Cut (phase : String) : Completion.Ending → List Event → Prop
  | finished : Cut phase .finished []
  | timedOut (message : String) : Cut phase .timedOut [.step "timeout" .error message]
  | failed (cause message : String) : Cut phase (.failed cause) [.step phase .error message]

theorem cut_interruption (phase : String) {ending : Completion.Ending}
    (ends : ∀ cause, ending ≠ .broke cause) : Cut phase ending (interruption phase ending) := by
  cases ending with
  | finished => exact .finished
  | timedOut => exact .timedOut _
  | failed cause => exact .failed cause _
  | broke cause => exact absurd rfl (ends cause)

/-- What is told of an answer is what is told of its tags, with the interruption put in. -/
theorem exists_listen (phase : String) {answer : Completion.Answer}
    (ends : ∀ cause, answer.ending ≠ .broke cause) :
    ∃ early late, (listen phase answer).1 = early ++ interruption phase answer.ending ++ late ∧
      early ++ late = (({} : Narration).tellAll
        (TagStream.transcript TagStream.standardVocabulary answer.pieces)).1 := by
  have told := Narration.tellAll_append {}
    (TagStream.feedAll TagStream.standardVocabulary {} answer.pieces).1
    (TagStream.flush (TagStream.feedAll TagStream.standardVocabulary {} answer.pieces).2)
  cases ending : answer.ending with
  | broke cause => exact absurd ending (ends cause)
  | _ => exact ⟨_, _, by simp [listen, ending], (congrArg Prod.fst told).symm⟩

end Heard

namespace Generator

/-- What is told of a call that does not break are the blocks of the tags of its answer, one after
another, with nothing but the error of an interruption put in. -/
theorem ask_blocks (g : Generator) (call : Call) {earlier : Nat}
    (ends : ∀ cause, (g.completion earlier).ending ≠ .broke cause) :
    ∃ tags left,
      Tagged TagStream.standardVocabulary (g.completion earlier).text.toList tags left ∧
      ∃ early cut late, (g.ask call earlier).events = early ++ cut ++ late ∧
        Blocks (tags ++ left.toList) (early ++ late) ∧
        Heard.Cut call.prompt.phase (g.completion earlier).ending cut := by
  obtain ⟨tags, left, tagged⟩ :=
    TagStream.exists_tagged TagStream.standardVocabulary (g.completion earlier).text.toList
  obtain ⟨early, late, events, told⟩ := Heard.exists_listen call.prompt.phase ends
  refine ⟨tags, left, tagged, early, _, late, ?_, ?_, Heard.cut_interruption _ ends⟩
  · rw [ask_eq, Run.events, events_exchange, events]
  · rw [told]
    exact Narration.blocks_tellAll "" (tagged.transcript (by decide))

/-- A generation whose calls time out while a step is told. -/
def timedOutStep : Generator where
  acceptance := { fixer := { validator := {} } }
  policy := {}
  completion := fun _ => ⟨["<plan>x</pl", "an>y<step type=\"a\">bc</s"], .timedOut⟩

theorem ask_blocks_timedOutStep :
    (∀ cause, (timedOutStep.completion 0).ending ≠ .broke cause) ∧
      ∃ tags left,
        Tagged TagStream.standardVocabulary (timedOutStep.completion 0).text.toList tags left ∧
        ∃ early cut late,
          (timedOutStep.ask (timedOutStep.planningCall "r") 0).events = early ++ cut ++ late ∧
          Blocks (tags ++ left.toList) (early ++ late) ∧
          Heard.Cut (timedOutStep.planningCall "r").prompt.phase
            (timedOutStep.completion 0).ending cut :=
  ⟨nofun, timedOutStep.ask_blocks (timedOutStep.planningCall "r") nofun⟩

end Generator

end WorkflowRepair
