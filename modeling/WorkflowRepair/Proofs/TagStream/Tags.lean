import WorkflowRepair.Proofs.TagStream.Chunks
import WorkflowRepair.Proofs.TagStream.Held

/-!
The tags of a text. A tag begins with the first marker there is, and its text goes up to the first
closing tag of its name, or to the end where there is none; what follows is read in the same way.
Whatever the pieces in which a text arrives, its tags are what is reported of it, up to the places
at which content is cut.
-/

namespace WorkflowRepair

/-- Whether an event is about content. -/
def TagEvent.isContent : TagEvent → Bool
  | .content _ => true
  | .opened _ _ | .closed _ | .endOfStream => false

namespace TagStream

open Text (FirstOf)

/-- A tag and the text in it. -/
structure Tag where
  name : String
  attributes : List (String × String)
  text : String
deriving DecidableEq, Repr

/-- The tags of a text one after another, and the one that is left open, if there is one. A marker
whose tag does not end, and a tag without a name, are passed over. -/
inductive Tagged (vocabulary : List String) : List Char → List Tag → Option Tag → Prop
  | nothing {text : List Char} (absent : ∀ m ∈ vocabulary.map marker, ¬m <:+: text) :
      Tagged vocabulary text [] none
  | unfinished {before tail : List Char} (first : FirstOf (vocabulary.map marker) before tail)
      (unclosed : '>' ∉ tail) : Tagged vocabulary (before ++ tail) [] none
  | nameless {before body rest : List Char} {tags : List Tag} {left : Option Tag}
      (first : FirstOf (vocabulary.map marker) before ('<' :: (body ++ '>' :: rest)))
      (whole : '>' ∉ body) (unnamed : tagName? body = none)
      (later : Tagged vocabulary rest tags left) :
      Tagged vocabulary (before ++ '<' :: (body ++ '>' :: rest)) tags left
  | closed {before body inner rest : List Char} {name : String} {tags : List Tag}
      {left : Option Tag}
      (first : FirstOf (vocabulary.map marker) before
        ('<' :: (body ++ '>' :: (inner ++ (closeTag name ++ rest)))))
      (whole : '>' ∉ body) (named : tagName? body = some name)
      (ends : FirstOf [closeTag name] inner (closeTag name ++ rest))
      (later : Tagged vocabulary rest tags left) :
      Tagged vocabulary (before ++ '<' :: (body ++ '>' :: (inner ++ (closeTag name ++ rest))))
        (⟨name, attributes body, .ofList inner⟩ :: tags) left
  | unended {before body inner : List Char} {name : String}
      (first : FirstOf (vocabulary.map marker) before ('<' :: (body ++ '>' :: inner)))
      (whole : '>' ∉ body) (named : tagName? body = some name)
      (endless : ¬closeTag name <:+: inner) :
      Tagged vocabulary (before ++ '<' :: (body ++ '>' :: inner)) []
        (some ⟨name, attributes body, .ofList inner⟩)

/-! ### Every text has its tags -/

section Exists

variable {vocabulary : List String}

theorem not_infix_of_fromMarker? {text : List Char}
    (h : fromMarker? (vocabulary.map marker) text = none) :
    ∀ m ∈ vocabulary.map marker, ¬m <:+: text := by
  induction text with
  | nil =>
    intro m mem inside
    obtain ⟨name, -, rfl⟩ := List.mem_map.1 mem
    exact List.cons_ne_nil _ _ (List.infix_nil.1 inside)
  | cons c rest ih =>
    obtain ⟨absent, later⟩ := not_marker_of_fromMarker?_cons h
    intro m mem inside
    rcases List.infix_cons_iff.1 inside with here | inside
    · exact absent m mem here
    · exact ih later m mem inside

/-- Every text has its tags, by induction on its length, since what is left behind a tag is
shorter. -/
theorem exists_tagged (vocabulary : List String) (text : List Char) :
    ∃ tags left, Tagged vocabulary text tags left := by
  induction size : text.length using Nat.strongRecOn generalizing text with
  | ind size ih =>
    subst size
    cases found : fromMarker? (vocabulary.map marker) text with
    | none => exact ⟨[], none, .nothing (not_infix_of_fromMarker? found)⟩
    | some tail =>
      obtain ⟨before, rfl, first⟩ := firstOf_of_fromMarker? found
      cases ended : tail.dropWhile beforeEnd with
      | nil =>
        refine ⟨[], none, .unfinished first fun mem => ?_⟩
        exact absurd (List.dropWhile_eq_nil_iff.1 ended '>' mem) (by decide)
      | cons c rest =>
        obtain ⟨parts, whole⟩ := eq_of_whole first.begins ended
        generalize (tail.takeWhile beforeEnd).drop 1 = body at parts whole
        subst parts
        cases named : tagName? body with
        | none =>
          obtain ⟨tags, left, later⟩ := ih rest.length (by simp; omega) rest rfl
          exact ⟨tags, left, .nameless first whole named later⟩
        | some name =>
          cases split : Text.splitFirst? (closeTag name) rest with
          | none =>
            exact ⟨[], _, .unended first whole named (Text.splitFirst?_eq_none_iff.1 split)⟩
          | some parts =>
            obtain ⟨inner, rest⟩ := parts
            have ends := Text.firstOf_of_splitFirst? split
            rw [Text.splitFirst?_eq_some split, List.append_assoc] at first ih ⊢
            obtain ⟨tags, left, later⟩ := ih rest.length (by simp; omega) rest rfl
            exact ⟨_ :: tags, left, .closed first whole named ends later⟩

end Exists

/-! ### What is reported of the tags -/

/-- What is reported of a tag before it ends. -/
def Tag.events (tag : Tag) : List TagEvent :=
  .opened tag.name tag.attributes :: contentOf tag.text.toList

/-- What is reported of tags and of one that is left open. -/
def tagEvents (left : Option Tag) : List Tag → List TagEvent
  | [] => (left.map Tag.events).getD [] ++ [.endOfStream]
  | tag :: tags => tag.events ++ .closed tag.name :: tagEvents left tags

section Reports

variable {vocabulary : List String} {text : List Char} {tags : List Tag} {left : Option Tag}

theorem fromMarker?_of_firstOf {before tail : List Char}
    (h : FirstOf (vocabulary.map marker) before tail) :
    fromMarker? (vocabulary.map marker) (before ++ tail) = some tail := by
  induction before with
  | nil =>
    obtain ⟨m, mem, begins⟩ := h.begins
    obtain ⟨name, -, rfl⟩ := List.mem_map.1 mem
    obtain ⟨rest, rfl⟩ := begins
    exact fromMarker?_cons_of_marker mem (List.prefix_append (marker name) rest)
  | cons c before ih =>
    rw [List.cons_append, fromMarker?_cons_of_none h.not_prefix_of_cons]
    exact ih h.of_cons

theorem fromMarker?_of_absent (absent : ∀ m ∈ vocabulary.map marker, ¬m <:+: text) :
    fromMarker? (vocabulary.map marker) text = none := by
  cases found : fromMarker? (vocabulary.map marker) text with
  | none => rfl
  | some tail =>
    obtain ⟨m, mem, begins⟩ := marker_of_fromMarker? found
    exact absurd (begins.isInfix.trans (suffix_of_fromMarker? found).isInfix) (absent m mem)

theorem coalesce_cons {event : TagEvent} (other : event.isContent = false)
    (more : List TagEvent) : coalesce (event :: more) = event :: coalesce more := by
  cases event with
  | content text => cases other
  | _ => rfl

theorem coalesce_content_of_cons (text : String) {event : TagEvent}
    (other : event.isContent = false) (more : List TagEvent) :
    coalesce (.content text :: event :: more) = .content text :: event :: coalesce more := by
  rw [coalesce, coalesce_cons other]
  cases event with
  | content text => cases other
  | _ => rfl

/-- Content in front of another event is joined with nothing. -/
theorem coalesce_contentOf (cs : List Char) {event : TagEvent} {more : List TagEvent}
    (other : event.isContent = false) :
    coalesce (contentOf cs ++ event :: more) = contentOf cs ++ event :: coalesce more := by
  unfold contentOf
  split
  · exact coalesce_cons other more
  · exact coalesce_content_of_cons _ other more

theorem beforeEnd_of_mem {body : List Char} (whole : '>' ∉ body) :
    ∀ c ∈ body, beforeEnd c = true := by
  intro c mem
  simpa [beforeEnd] using fun same : c = '>' => whole (same ▸ mem)

/-- What is reported of a text that holds a whole tag, from the first of them on. -/
theorem scan_of_firstOf {before body rest : List Char} (whole : '>' ∉ body)
    (first : FirstOf (vocabulary.map marker) before ('<' :: (body ++ '>' :: rest))) :
    TagStream.scan (vocabulary.map marker) none (before ++ '<' :: (body ++ '>' :: rest)) =
      match tagName? body with
      | none => TagStream.scan (vocabulary.map marker) none rest
      | some name =>
        precede [.opened name (attributes body)]
          (TagStream.scan (vocabulary.map marker) (some name) rest) := by
  have plain : ∀ c ∈ '<' :: body, beforeEnd c = true :=
    List.forall_mem_cons.2 ⟨by decide, beforeEnd_of_mem whole⟩
  have ended : ('<' :: (body ++ '>' :: rest)).dropWhile beforeEnd = '>' :: rest := by
    rw [← List.cons_append, List.dropWhile_append_of_pos plain]
    rfl
  have inside : ('<' :: (body ++ '>' :: rest)).takeWhile beforeEnd = '<' :: body := by
    rw [← List.cons_append, List.takeWhile_append_of_pos plain]
    simp [beforeEnd]
  rw [scan_outside_tag (fromMarker?_of_firstOf first) ended, afterTag, inside]
  rfl

/-- What is reported of a text is what is reported of its tags. -/
theorem Tagged.scan (h : Tagged vocabulary text tags left) :
    coalesce ((scan (vocabulary.map marker) none text).1 ++
      flush (scan (vocabulary.map marker) none text).2) = tagEvents left tags := by
  induction h with
  | nothing absent =>
    rw [scan_outside_idle (fromMarker?_of_absent absent)]
    rfl
  | unfinished first unclosed =>
    have waits : List.dropWhile beforeEnd _ = [] :=
      List.dropWhile_eq_nil_iff.2 (beforeEnd_of_mem unclosed)
    rw [scan_outside_waiting (fromMarker?_of_firstOf first) waits]
    rfl
  | nameless first whole unnamed later ih =>
    rw [scan_of_firstOf whole first, unnamed]
    exact ih
  | closed first whole named ends later ih =>
    simp only [scan_of_firstOf whole first, named, scan_inside_closed ends.splitFirst?, precede]
    simp only [tagEvents, Tag.events, ← ih, List.cons_append, List.nil_append, List.append_assoc,
      coalesce, String.toList_ofList]
    exact congrArg _ (coalesce_contentOf _ rfl)
  | @unended before body inner name first whole named endless =>
    simp only [scan_of_firstOf whole first, named,
      scan_inside_open (Text.splitFirst?_eq_none_iff.2 endless), precede]
    have joined := contentOf_append (inner.take (inner.length - (closeTag name).length))
      (inner.drop (inner.length - (closeTag name).length)) [.endOfStream]
    rw [List.take_append_drop, coalesce_contentOf _ rfl] at joined
    simpa [tagEvents, Tag.events, coalesce, flush] using joined.symm

/-- Whatever the pieces in which a text arrives, what is reported are its tags. -/
theorem Tagged.transcript (plain : Plain vocabulary) {chunks : List String}
    (h : Tagged vocabulary (String.join chunks).toList tags left) :
    coalesce (transcript vocabulary chunks) = tagEvents left tags := by
  rw [coalesce_transcript plain, transcript_singleton]
  exact h.scan

/-! ### A text has its tags only once -/

/-- Content and what comes after it can be told apart. -/
theorem contentOf_inj {a b : List Char} {event event' : TagEvent} {more more' : List TagEvent}
    (other : event.isContent = false) (other' : event'.isContent = false)
    (same : contentOf a ++ event :: more = contentOf b ++ event' :: more') :
    a = b ∧ event = event' ∧ more = more' := by
  cases a <;> cases b
  · simpa [contentOf] using same
  · cases event <;> simp_all [contentOf, TagEvent.isContent]
  · cases event' <;> simp_all [contentOf, TagEvent.isContent]
  · simp only [contentOf, List.isEmpty_cons, Bool.false_eq_true, if_false, List.cons_append,
      List.nil_append, List.cons.injEq, TagEvent.content.injEq, String.ofList_inj] at same
    simpa only [List.cons.injEq] using same

theorem Tag.events_inj {tag tag' : Tag} {event event' : TagEvent} {more more' : List TagEvent}
    (other : event.isContent = false) (other' : event'.isContent = false)
    (same : tag.events ++ event :: more = tag'.events ++ event' :: more') :
    tag = tag' ∧ event = event' ∧ more = more' := by
  obtain ⟨name, attributes, text⟩ := tag
  obtain ⟨name', attributes', text'⟩ := tag'
  simp only [events, List.cons_append, List.cons.injEq, TagEvent.opened.injEq] at same
  obtain ⟨⟨rfl, rfl⟩, contents⟩ := same
  obtain ⟨texts, rest⟩ := contentOf_inj other other' contents
  exact ⟨by rw [String.toList_inj.1 texts], rest⟩

theorem tagEvents_inj {tags' : List Tag} {left' : Option Tag}
    (same : tagEvents left tags = tagEvents left' tags') : tags = tags' ∧ left = left' := by
  induction tags generalizing tags' with
  | nil =>
    cases tags' with
    | nil =>
      cases left <;> cases left'
      · exact ⟨rfl, rfl⟩
      · simp [tagEvents, Tag.events] at same
      · simp [tagEvents, Tag.events] at same
      · exact ⟨rfl, congrArg some (Tag.events_inj rfl rfl same).1⟩
    | cons tag tags =>
      cases left with
      | none => simp [tagEvents, Tag.events] at same
      | some last => cases (Tag.events_inj rfl rfl same).2.1
  | cons tag tags ih =>
    cases tags' with
    | nil =>
      cases left' with
      | none => simp [tagEvents, Tag.events] at same
      | some last => cases (Tag.events_inj rfl rfl same).2.1
    | cons tag' tags' =>
      obtain ⟨rfl, -, rest⟩ := Tag.events_inj rfl rfl same
      obtain ⟨rfl, rfl⟩ := ih rest
      exact ⟨rfl, rfl⟩

/-- A text has no other tags than those that are reported of it. -/
theorem Tagged.unique {tags' : List Tag} {left' : Option Tag}
    (h : Tagged vocabulary text tags left) (h' : Tagged vocabulary text tags' left') :
    tags = tags' ∧ left = left' :=
  tagEvents_inj (h.scan.symm.trans h'.scan)

end Reports

/-! ### Reports that come in pieces -/

theorem coalesce_content_cons (text : String) (events : List TagEvent) :
    (∃ text' rest, coalesce events = .content text' :: rest ∧
      coalesce (.content text :: events) = .content (text ++ text') :: rest) ∨
    coalesce (.content text :: events) = .content text :: coalesce events := by
  cases h : coalesce events with
  | nil => exact .inr (by simp [coalesce, h])
  | cons event rest =>
    cases event with
    | content text' => exact .inl ⟨text', rest, rfl, by simp [coalesce, h]⟩
    | _ => exact .inr (by simp [coalesce, h])

theorem coalesce_eq_nil {events : List TagEvent} (h : coalesce events = []) :
    events = [] := by
  cases events with
  | nil => rfl
  | cons event events =>
    cases event with
    | content text =>
      rcases coalesce_content_cons text events with ⟨text', rest, -, joined⟩ | joined
      all_goals simp [joined] at h
    | _ => simp [coalesce] at h

/-- An event that is not about content is reported as it stands. -/
theorem exists_of_coalesce_eq_cons {events : List TagEvent} {event : TagEvent}
    {rest : List TagEvent} (other : event.isContent = false)
    (h : coalesce events = event :: rest) :
    ∃ more, events = event :: more ∧ coalesce more = rest := by
  cases events with
  | nil => cases h
  | cons first events =>
    cases first with
    | content text =>
      rcases coalesce_content_cons text events with ⟨text', rest', -, joined⟩ | joined
      all_goals
        rw [joined, List.cons.injEq] at h
        rw [← h.1] at other
        cases other
    | _ =>
      simp only [coalesce, List.cons.injEq] at h
      obtain ⟨rfl, rfl⟩ := h
      exact ⟨events, rfl, rfl⟩

/-- Content in front of another event is reported in pieces. -/
theorem exists_pieces_of_coalesce {events : List TagEvent} {text : String} {event : TagEvent}
    {rest : List TagEvent} (other : event.isContent = false)
    (h : coalesce events = .content text :: event :: rest) :
    ∃ pieces more, events = pieces.map .content ++ event :: more ∧ String.join pieces = text ∧
      coalesce more = rest := by
  induction events generalizing text with
  | nil => cases h
  | cons first events ih =>
    cases first with
    | content part =>
      rcases coalesce_content_cons part events with ⟨text', rest', later, joined⟩ | joined
      · rw [joined] at h
        cases h
        obtain ⟨pieces, more, rfl, rfl, parts⟩ := ih later
        exact ⟨part :: pieces, more, rfl, String.join_cons, parts⟩
      · rw [joined] at h
        obtain ⟨rfl, later⟩ : part = text ∧ coalesce events = event :: rest := by simpa using h
        obtain ⟨more, rfl, parts⟩ := exists_of_coalesce_eq_cons other later
        exact ⟨[part], more, rfl, by simp, parts⟩
    | _ => simp [coalesce] at h

theorem exists_pieces_of_contentOf {events : List TagEvent} {text : String} {event : TagEvent}
    {rest : List TagEvent} (other : event.isContent = false)
    (h : coalesce events = contentOf text.toList ++ event :: rest) :
    ∃ pieces more, events = pieces.map .content ++ event :: more ∧ String.join pieces = text ∧
      coalesce more = rest := by
  by_cases none : text = ""
  · subst none
    obtain ⟨more, rfl, parts⟩ := exists_of_coalesce_eq_cons other h
    exact ⟨[], more, rfl, rfl, parts⟩
  · have filled : contentOf text.toList = [.content text] := by simp [contentOf, none]
    rw [filled] at h
    exact exists_pieces_of_coalesce other h

/-- What is reported of a tag is its opening and the pieces of its text. -/
theorem Tag.exists_pieces {tag : Tag} {events : List TagEvent} {event : TagEvent}
    {rest : List TagEvent} (other : event.isContent = false)
    (h : coalesce events = tag.events ++ event :: rest) :
    ∃ pieces more, events =
        .opened tag.name tag.attributes :: (pieces.map .content ++ event :: more) ∧
      String.join pieces = tag.text ∧ coalesce more = rest := by
  obtain ⟨later, rfl, contents⟩ := exists_of_coalesce_eq_cons rfl h
  obtain ⟨pieces, more, rfl, joined, parts⟩ := exists_pieces_of_contentOf other contents
  exact ⟨pieces, more, rfl, joined, parts⟩

end TagStream

end WorkflowRepair
