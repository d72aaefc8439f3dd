import WorkflowRepair.Proofs.Generation.Attempts
import WorkflowRepair.Proofs.Workflow.RoundTrip

/-!
The pieces in which the answers of a model arrive do not matter to a generation. They show in the
events only as the places at which a stream of text is cut; when neighbouring pieces of a stream
are joined, the events are the same, and so are the calls, which never depend on a piece alone.
-/

namespace WorkflowRepair

/-! ### Streams of text among events -/

namespace Event

/-- What a piece of text is told as: a thought, or a part of a step. -/
inductive Stream where
  | thought
  | step (type : String)
deriving DecidableEq

/-- The event that tells a piece of a stream. -/
def Stream.event : Stream → String → Event
  | .thought, text => .thinking text
  | .step type, text => .step type .streaming text

/-- The stream of which the event tells a piece, and the piece. -/
def streamed? (event : Event) : Option (Stream × String) :=
  match event.kind, Members.getD event.payload "content" with
  | .thinking, .str text => some (.thought, text)
  | .step, .str text =>
    match Members.getD event.payload "step_type" with
    | .str type =>
      if Members.getD event.payload "status" = .str StepStatus.streaming.name then
        some (.step type, text)
      else none
    | _ => none
  | _, _ => none

/-- An event before others, joined with the first of them when both tell pieces of one stream. -/
def joinFront (event : Event) (rest : List Event) : List Event :=
  match event.streamed?, rest with
  | some (stream, text), next :: more =>
    match next.streamed? with
    | some (stream', text') =>
      if stream = stream' then stream.event (text ++ text') :: more else event :: rest
    | none => event :: rest
  | _, _ => event :: rest

/-- Joins neighbouring pieces of one stream. -/
def join (events : List Event) : List Event := events.foldr joinFront []

theorem streamed?_event (stream : Stream) (text : String) :
    (stream.event text).streamed? = some (stream, text) := by
  cases stream <;>
    simp [Stream.event, thinking, step, streamed?, Members.getD_cons]

theorem joinFront_joinFront {a b : Event} {stream : Stream} {text text' : String}
    (ha : a.streamed? = some (stream, text)) (hb : b.streamed? = some (stream, text'))
    (rest : List Event) :
    joinFront a (joinFront b rest) = joinFront (stream.event (text ++ text')) rest := by
  cases rest with
  | nil => simp [joinFront, ha, hb]
  | cons next more =>
    cases hn : next.streamed? with
    | none => simp [joinFront, ha, hb, hn, streamed?_event]
    | some piece =>
      obtain ⟨stream', text''⟩ := piece
      by_cases same : stream = stream'
      · subst same
        simp [joinFront, ha, hb, hn, streamed?_event, String.append_assoc]
      · simp [joinFront, ha, hb, hn, streamed?_event, same]

theorem join_joinFront_append (event : Event) (events more : List Event) :
    join (joinFront event events ++ more) = joinFront event (join (events ++ more)) := by
  cases events with
  | nil =>
    cases h : event.streamed? <;> simp [joinFront, join, h]
  | cons next rest =>
    cases h : event.streamed? with
    | none => simp [joinFront, join, h]
    | some piece =>
      obtain ⟨stream, text⟩ := piece
      cases hn : next.streamed? with
      | none => simp [joinFront, join, h, hn]
      | some piece' =>
        obtain ⟨stream', text'⟩ := piece'
        by_cases same : stream = stream'
        · subst same
          have front : joinFront event (next :: rest) =
              stream.event (text ++ text') :: rest := by simp [joinFront, h, hn]
          rw [front]
          exact (joinFront_joinFront h hn (join (rest ++ more))).symm
        · simp [joinFront, join, h, hn, same]

/-- Events that are joined already may be joined with more. -/
theorem join_join_append (events more : List Event) :
    join (join events ++ more) = join (events ++ more) := by
  induction events with
  | nil => rfl
  | cons event rest ih =>
    show join (joinFront event (join rest) ++ more) = joinFront event (join (rest ++ more))
    rw [join_joinFront_append, ih]

theorem join_append_congr {a b c d : List Event} (h : join a = join b) (h' : join c = join d) :
    join (a ++ c) = join (b ++ d) := by
  have front : join (b ++ c) = join (b ++ d) := by
    simp only [join, List.foldr_append] at h' ⊢
    rw [h']
  rw [← join_join_append, h, join_join_append, front]

end Event

/-! ### Narration -/

namespace Narration

/-- The stream to which content belongs. -/
def stream? (n : Narration) : Option Event.Stream :=
  if n.inPlan then some .thought else n.step.map .step

theorem tell_content (n : Narration) (text : String) :
    n.tell (.content text) =
      ((n.stream?.map (·.event text)).toList,
        if n.inPlan then { n with plan := n.plan ++ text } else n) := by
  cases plan : n.inPlan with
  | true => simp [tell, stream?, plan, Event.Stream.event]
  | false => cases step : n.step <;> simp [tell, stream?, plan, step, Event.Stream.event]

theorem tell_content_content (n : Narration) (text text' : String) :
    ((n.tell (.content text)).2.tell (.content text')).2 =
      (n.tell (.content (text ++ text'))).2 := by
  cases plan : n.inPlan <;> simp [tell_content, plan, String.append_assoc]

theorem stream?_tell_content (n : Narration) (text : String) :
    (n.tell (.content text)).2.stream? = n.stream? := by
  cases plan : n.inPlan <;> simp [tell_content, plan, stream?]

theorem tellAll_content_content (n : Narration) (text text' : String) (more : List TagEvent) :
    (n.tellAll (.content text :: .content text' :: more)).2 =
        (n.tellAll (.content (text ++ text') :: more)).2 ∧
      Event.join (n.tellAll (.content text :: .content text' :: more)).1 =
        Event.join (n.tellAll (.content (text ++ text') :: more)).1 := by
  simp only [tellAll_cons, tell_content_content, true_and]
  simp only [tell_content _ text', stream?_tell_content]
  simp only [tell_content n]
  cases n.stream? with
  | none => rfl
  | some stream =>
    exact Event.joinFront_joinFront (Event.streamed?_event stream text)
      (Event.streamed?_event stream text') _

/-- The narrations of events whose content is cut at different places come to the same. -/
theorem tellAll_coalesce (n : Narration) (tags : List TagEvent) :
    (n.tellAll tags).2 = (n.tellAll (TagStream.coalesce tags)).2 ∧
      Event.join (n.tellAll tags).1 = Event.join (n.tellAll (TagStream.coalesce tags)).1 := by
  induction tags generalizing n with
  | nil => exact ⟨rfl, rfl⟩
  | cons tag rest ih =>
    obtain ⟨state, events⟩ := ih (n.tell tag).2
    have step : (n.tellAll (tag :: rest)).2 =
          (n.tellAll (tag :: TagStream.coalesce rest)).2 ∧
        Event.join (n.tellAll (tag :: rest)).1 =
          Event.join (n.tellAll (tag :: TagStream.coalesce rest)).1 :=
      ⟨state, Event.join_append_congr rfl events⟩
    cases tag with
    | opened name attributes => exact step
    | closed name => exact step
    | endOfStream => exact step
    | content text =>
      rw [step.1, step.2]
      cases joined : TagStream.coalesce rest with
      | nil => simp [TagStream.coalesce, joined]
      | cons next more =>
        cases next with
        | content text' =>
          simp only [TagStream.coalesce, joined]
          exact n.tellAll_content_content text text' more
        | opened name attributes => simp [TagStream.coalesce, joined]
        | closed name => simp [TagStream.coalesce, joined]
        | endOfStream => simp [TagStream.coalesce, joined]

end Narration

/-! ### Answers -/

namespace Completion.Answer

/-- The answers give the same text and end in the same way. -/
structure SameText (a b : Answer) : Prop where
  text : a.text = b.text
  ending : a.ending = b.ending

end Completion.Answer

namespace Heard

open TagStream

/-- What is told of the pieces of a text, and what is kept of them, up to the cuts. -/
theorem told_pieces {a b : List String} (same : String.join a = String.join b) (n : Narration) :
    let first := feedAll standardVocabulary {} a
    let second := feedAll standardVocabulary {} b
    flush first.2 = flush second.2 ∧ (n.tellAll first.1).2 = (n.tellAll second.1).2 ∧
      Event.join (n.tellAll first.1).1 = Event.join (n.tellAll second.1).1 := by
  intro first second
  have plain : Plain standardVocabulary := by decide
  have agree : Agree (standardVocabulary.map marker) first second :=
    (feedAll_join plain a).symm.trans (same ▸ feedAll_join plain b)
  have tags : coalesce first.1 = coalesce second.1 := by
    simpa only [List.append_nil] using agree.events []
  refine ⟨?_, ?_, ?_⟩
  · rw [← flush_settled (standardVocabulary.map marker), agree.state, flush_settled]
  · rw [(n.tellAll_coalesce first.1).1, tags, ← (n.tellAll_coalesce second.1).1]
  · rw [(n.tellAll_coalesce first.1).2, tags, ← (n.tellAll_coalesce second.1).2]

/-- The pieces of an answer matter neither to what is left of it nor, up to the cuts, to what is
told of it. -/
theorem listen_pieces (phase : String) {a b : Completion.Answer} (same : a.SameText b) :
    (listen phase a).2 = (listen phase b).2 ∧
      Event.join (listen phase a).1 = Event.join (listen phase b).1 := by
  obtain ⟨kept, state, told⟩ := told_pieces same.text {}
  have ending := same.ending
  have text := same.text
  cases ended : b.ending <;> rw [ended] at ending <;>
    simp only [listen, ended, ending, kept, state, text, true_and]
  · exact Event.join_append_congr (Event.join_append_congr told rfl) rfl
  · exact Event.join_append_congr (Event.join_append_congr told rfl) rfl
  · exact Event.join_append_congr (Event.join_append_congr told rfl) rfl
  · exact told

end Heard

/-! ### Runs -/

namespace Talk

/-- Parts of runs that make the same calls, tell the same but for cuts, and give the same. -/
structure Alike {α : Type} (part other : Talk α) : Prop where
  calls : ∀ earlier, (part earlier).calls = (other earlier).calls
  events : ∀ earlier, Event.join (part earlier).events = Event.join (other earlier).events
  result : ∀ earlier, (part earlier).result = (other earlier).result

variable {α β : Type}

theorem Alike.refl (part : Talk α) : Alike part part := ⟨fun _ => rfl, fun _ => rfl, fun _ => rfl⟩

theorem Alike.bind {first first' : Talk α} {next next' : α → Talk β} (h : Alike first first')
    (h' : ∀ a, Alike (next a) (next' a)) : Alike (first >>= next) (first' >>= next') := by
  have both (earlier : Nat) :
      ((first >>= next) earlier).calls = ((first' >>= next') earlier).calls ∧
        Event.join ((first >>= next) earlier).events =
          Event.join ((first' >>= next') earlier).events ∧
        ((first >>= next) earlier).result = ((first' >>= next') earlier).result := by
    have result := h.result earlier
    cases ended : (first' earlier).result with
    | error fault =>
      rw [bind_of_error (result.trans ended), bind_of_error ended]
      exact ⟨h.calls earlier, h.events earlier, rfl⟩
    | ok a =>
      rw [bind_of_ok (result.trans ended), bind_of_ok ended]
      simp only [Run.calls_after_steps, Run.events_after_steps, Run.result_after]
      rw [h.calls earlier, (h' a).calls]
      exact ⟨rfl, Event.join_append_congr (h.events earlier) ((h' a).events _), (h' a).result _⟩
  exact ⟨fun n => (both n).1, fun n => (both n).2.1, fun n => (both n).2.2⟩

end Talk

namespace Generator

open Completion

section

variable (g : Generator) {other : Nat → Answer}
  (same : ∀ k, (g.completion k).SameText (other k))
include same

theorem alike_ask (call : Call) : Talk.Alike (g.ask call) ((g.answeredBy other).ask call) := by
  have told (k : Nat) := Heard.listen_pieces call.prompt.phase (same k)
  refine ⟨fun k => ?_, fun k => ?_, fun k => (told k).1⟩
  · simp only [ask_eq, Run.calls, calls_exchange]
  · simp only [ask_eq, Run.events, events_exchange]
    exact (told k).2

theorem alike_askPlan (request : String) (left : Nat) :
    Talk.Alike (g.askPlan request left) ((g.answeredBy other).askPlan request left) := by
  induction left with
  | zero => exact Talk.Alike.refl _
  | succ left ih =>
    refine (g.alike_ask same _).bind fun heard => ?_
    by_cases blank : heard.plan = ""
    · rw [if_pos blank, if_pos blank]
      exact ih
    · rw [if_neg blank, if_neg blank]
      exact Talk.Alike.refl _

theorem alike_plan (request : String) :
    Talk.Alike (g.plan request) ((g.answeredBy other).plan request) := by
  cases wanted : g.policy.plans with
  | false =>
    rw [g.plan_of_unplanned request wanted, (g.answeredBy other).plan_of_unplanned request wanted]
    exact Talk.Alike.refl _
  | true =>
    have wanted' : (g.answeredBy other).policy.plans = true := wanted
    rw [plan, plan, if_pos wanted, if_pos wanted']
    refine (Talk.Alike.refl _).bind fun _ => ?_
    exact (g.alike_askPlan same request _).bind fun found => Talk.Alike.refl _

theorem alike_guided (request : String) (plan : Option String) (left : Nat)
    (errors : List String) :
    Talk.Alike (g.guided request plan left errors)
      ((g.answeredBy other).guided request plan left errors) := by
  induction left generalizing errors with
  | zero => exact Talk.Alike.refl _
  | succ left ih =>
    refine (g.alike_ask same _).bind fun heard => ?_
    by_cases failed : heard.failed = true
    · rw [if_pos failed, if_pos failed]
      exact (Talk.Alike.refl _).bind fun _ => ih errors
    · rw [if_neg failed, if_neg failed]
      refine (Talk.Alike.refl (g.judge heard.text)).bind fun o => ?_
      by_cases accepted : o.isAccepted = true
      · rw [if_pos accepted, if_pos accepted]
        exact Talk.Alike.refl _
      · rw [if_neg accepted, if_neg accepted]
        exact (Talk.Alike.refl _).bind fun _ => ih o.summary

theorem alike_constrained (request : String) (errors : List String) :
    Talk.Alike (g.constrained request errors)
      ((g.answeredBy other).constrained request errors) := by
  refine (Talk.Alike.refl _).bind fun _ => ?_
  refine (g.alike_ask same _).bind fun heard => ?_
  by_cases failed : heard.failed = true
  · rw [if_pos failed, if_pos failed]
    exact Talk.Alike.refl _
  · rw [if_neg failed, if_neg failed]
    exact (Talk.Alike.refl (g.judge heard.text)).bind fun o => Talk.Alike.refl _

theorem alike_generate (request : String) :
    Talk.Alike (g.generate request) ((g.answeredBy other).generate request) := by
  refine (g.alike_plan same request).bind fun plan => ?_
  refine (g.alike_guided same request plan _ []).bind fun outcome => ?_
  cases outcome with
  | accepted o => exact Talk.Alike.refl _
  | exhausted errors => exact g.alike_constrained same request errors

end

/-- The pieces in which the answers arrive make no difference to the calls of a run and to its end,
and none to its events when the pieces of each stream are joined. -/
theorem run_pieces (g : Generator) (other : Nat → Answer)
    (same : ∀ k, (g.completion k).SameText (other k)) (request : String) :
    ((g.answeredBy other).run request).calls = (g.run request).calls ∧
      Event.join ((g.answeredBy other).run request).events = Event.join (g.run request).events ∧
      ((g.answeredBy other).run request).result = (g.run request).result := by
  have alike := g.alike_generate same request
  exact ⟨(alike.calls 0).symm, (alike.events 0).symm, (alike.result 0).symm⟩

/-- A generation that is given a plan in these pieces, and nothing later. -/
def planInPieces (pieces : List String) : Generator where
  acceptance := { fixer := { validator := {} } }
  policy := {}
  completion := fun k => if k = 0 then { pieces := pieces } else {}

/-- The plan cut in its tag or in its text: the events differ until they are joined. -/
theorem run_pieces_planInPieces :
    let g := planInPieces ["<plan>find the t", "ext</plan>"]
    let other := planInPieces ["<pl", "an>find the text</plan>"]
    (∀ k, (g.completion k).SameText (other.completion k)) ∧
      (other.run "r").events ≠ (g.run "r").events ∧
      ((g.answeredBy other.completion).run "r").calls = (g.run "r").calls ∧
      Event.join ((g.answeredBy other.completion).run "r").events = Event.join (g.run "r").events ∧
      ((g.answeredBy other.completion).run "r").result = (g.run "r").result := by
  intro g other
  have same (k : Nat) : (g.completion k).SameText (other.completion k) := by
    cases k with
    | zero => exact ⟨by decide +kernel, rfl⟩
    | succ k => exact ⟨rfl, rfl⟩
  exact ⟨same, by decide +kernel, g.run_pieces other.completion same "r"⟩

end Generator

end WorkflowRepair
