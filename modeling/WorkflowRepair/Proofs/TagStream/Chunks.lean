import WorkflowRepair.Proofs.TagStream.Scan
import WorkflowRepair.Proofs.Text.Search

/-!
The pieces in which a text arrives do not matter. Two states that keep different characters outside
of tags count as one when what they keep comes to the same from the first marker on; scanning
respects this, and scanning a text piece by piece reports the same as scanning it at once, up to the
places at which content is cut.
-/

namespace WorkflowRepair.TagStream

/-! ### Events up to the places at which content is cut -/

/-- The events are the same once neighbouring content is joined, whatever follows them. -/
def Alike (a b : List TagEvent) : Prop := ∀ more, coalesce (a ++ more) = coalesce (b ++ more)

namespace Alike

variable {a b c d : List TagEvent}

theorem refl (a : List TagEvent) : Alike a a := fun _ => rfl

theorem symm (h : Alike a b) : Alike b a := fun more => (h more).symm

theorem trans (h : Alike a b) (h' : Alike b c) : Alike a c := fun more => (h more).trans (h' more)

end Alike

theorem coalesce_cons_congr (event : TagEvent) {a b : List TagEvent}
    (h : coalesce a = coalesce b) : coalesce (event :: a) = coalesce (event :: b) := by
  cases event <;> simp [coalesce, h]

theorem coalesce_append_congr (front : List TagEvent) {a b : List TagEvent}
    (h : coalesce a = coalesce b) : coalesce (front ++ a) = coalesce (front ++ b) := by
  induction front with
  | nil => exact h
  | cons event front ih => exact coalesce_cons_congr event ih

namespace Alike

variable {a b c d : List TagEvent}

theorem append (h : Alike a b) (h' : Alike c d) : Alike (a ++ c) (b ++ d) := by
  intro more
  calc coalesce (a ++ c ++ more)
      = coalesce (b ++ (c ++ more)) := by rw [List.append_assoc]; exact h (c ++ more)
    _ = coalesce (b ++ d ++ more) := by
      rw [List.append_assoc]
      exact coalesce_append_congr b (h' more)

end Alike

theorem coalesce_content_content (x y : String) (more : List TagEvent) :
    coalesce (.content x :: .content y :: more) = coalesce (.content (x ++ y) :: more) := by
  cases h : coalesce more with
  | nil => simp [coalesce, h]
  | cons event rest => cases event <;> simp [coalesce, h, String.append_assoc]

/-- Content may be cut anywhere. -/
theorem contentOf_append (x y : List Char) :
    Alike (contentOf (x ++ y)) (contentOf x ++ contentOf y) := by
  intro more
  by_cases hx : x = []
  · simp [hx, contentOf]
  by_cases hy : y = []
  · simp [hy, contentOf]
  · simp [contentOf, hx, hy, coalesce_content_content, String.ofList_append]

/-! ### What a state keeps -/

/-- What matters of the characters kept outside of tags: all from the first marker on, or else the
ending that may become one. -/
def pending (markers : List (List Char)) (buffer : List Char) : List Char :=
  (fromMarker? markers buffer).getD (partialMarker markers buffer)

/-- The state with nothing kept that does not matter. -/
def settled (markers : List (List Char)) (state : TagState) : TagState :=
  match state.inside with
  | none => ⟨pending markers state.buffer, none⟩
  | some _ => state

section Pending

variable {markers : List (List Char)}

theorem pending_of_marker {buffer tail : List Char} (h : fromMarker? markers buffer = some tail) :
    pending markers buffer = tail := by
  rw [pending, h]
  rfl

theorem pending_of_none {buffer : List Char} (h : fromMarker? markers buffer = none) :
    pending markers buffer = partialMarker markers buffer := by
  rw [pending, h]
  rfl

/-- More text has to be added only to what matters. -/
theorem pending_append (single : SingleBracket markers) (buffer more : List Char) :
    pending markers (pending markers buffer ++ more) = pending markers (buffer ++ more) := by
  cases h : fromMarker? markers buffer with
  | some tail =>
    rw [pending_of_marker h, pending_of_marker (fromMarker?_append single more h),
      pending_of_marker (fromMarker?_append single more (fromMarker?_idem h))]
  | none =>
    rw [pending_of_none h, pending, pending, fromMarker?_append_of_none more h,
      partialMarker_append]

theorem pending_idem (single : SingleBracket markers) (buffer : List Char) :
    pending markers (pending markers buffer) = pending markers buffer := by
  simpa using pending_append single buffer []

theorem settled_outside (buffer : List Char) :
    settled markers ⟨buffer, none⟩ = ⟨pending markers buffer, none⟩ := rfl

theorem settled_inside (buffer : List Char) (name : String) :
    settled markers ⟨buffer, some name⟩ = ⟨buffer, some name⟩ := rfl

theorem flush_settled (markers : List (List Char)) (state : TagState) :
    flush (settled markers state) = flush state := by
  obtain ⟨buffer, inside⟩ := state
  cases inside <;> rfl

end Pending

/-- The outcomes of two scans tell the same and leave states that count as one. -/
structure Agree (markers : List (List Char)) (a b : List TagEvent × TagState) : Prop where
  events : Alike a.1 b.1
  state : settled markers a.2 = settled markers b.2

namespace Agree

variable {markers : List (List Char)} {a b c : List TagEvent × TagState}

theorem refl (a : List TagEvent × TagState) : Agree markers a a := ⟨Alike.refl _, rfl⟩

theorem symm (h : Agree markers a b) : Agree markers b a := ⟨h.events.symm, h.state.symm⟩

theorem trans (h : Agree markers a b) (h' : Agree markers b c) : Agree markers a c :=
  ⟨h.events.trans h'.events, h.state.trans h'.state⟩

theorem precede (events : List TagEvent) (h : Agree markers a b) :
    Agree markers (precede events a) (precede events b) :=
  ⟨(Alike.refl events).append h.events, h.state⟩

end Agree

/-! ### Scanning on -/

/-- What comes of a scan and of scanning on with more text. -/
def resume (markers : List (List Char)) (outcome : List TagEvent × TagState) (more : List Char) :
    List TagEvent × TagState :=
  precede outcome.1 (scan markers outcome.2.inside (outcome.2.buffer ++ more))

theorem resume_precede (markers : List (List Char)) (events : List TagEvent)
    (outcome : List TagEvent × TagState) (more : List Char) :
    resume markers (precede events outcome) more =
      precede events (resume markers outcome more) := by
  simp [resume, precede]

section Scanning

variable {markers : List (List Char)}

/-- Outside of tags a scan sees only what matters. -/
theorem scan_pending (buffer : List Char) :
    Agree markers (scan markers none (pending markers buffer)) (scan markers none buffer) := by
  cases h : fromMarker? markers buffer with
  | none =>
    have again := fromMarker?_append_of_none [] h
    rw [List.append_nil, List.append_nil, h] at again
    have same :
        partialMarker markers (partialMarker markers buffer) = partialMarker markers buffer := by
      simpa only [List.append_nil] using partialMarker_append buffer []
    rw [pending_of_none h, scan_outside_idle h, scan_outside_idle again, same]
    exact Agree.refl _
  | some tail =>
    have again := fromMarker?_idem h
    rw [pending_of_marker h]
    cases ht : tail.dropWhile beforeEnd with
    | nil =>
      rw [scan_outside_waiting h ht, scan_outside_waiting again ht]
      refine ⟨Alike.refl _, ?_⟩
      rw [settled_outside, settled_outside, pending_of_marker h, pending_of_marker again]
    | cons c rest =>
      rw [scan_outside_tag h ht, scan_outside_tag again ht]
      exact Agree.refl _

/-- States that count as one stay so when the same text follows. -/
theorem scan_congr (single : SingleBracket markers) {s t : TagState}
    (h : settled markers s = settled markers t) (more : List Char) :
    Agree markers (scan markers s.inside (s.buffer ++ more))
      (scan markers t.inside (t.buffer ++ more)) := by
  obtain ⟨b, i⟩ := s
  obtain ⟨b', i'⟩ := t
  cases i <;> cases i'
  · have same : pending markers b = pending markers b' := congrArg TagState.buffer h
    have keep : pending markers (b ++ more) = pending markers (b' ++ more) := by
      rw [← pending_append single b, same, pending_append single b']
    refine (scan_pending (b ++ more)).symm.trans ?_
    rw [keep]
    exact scan_pending (b' ++ more)
  · cases congrArg TagState.inside h
  · cases congrArg TagState.inside h
  · rw [settled_inside, settled_inside] at h
    cases h
    exact Agree.refl _

theorem dropWhile_append_of_eq_cons {p : Char → Bool} {cs rest : List Char} {c : Char}
    (h : cs.dropWhile p = c :: rest) (more : List Char) :
    (cs ++ more).dropWhile p = c :: (rest ++ more) ∧
      (cs ++ more).takeWhile p = cs.takeWhile p := by
  induction cs with
  | nil => cases h
  | cons d cs ih =>
    by_cases hd : p d = true
    · simp only [List.dropWhile_cons, hd, if_true] at h
      simpa [hd] using ih h
    · simp only [List.dropWhile_cons, hd, Bool.false_eq_true, if_false] at h
      cases h
      simp [hd]

theorem scan_inside_front {name : String} {front last : List Char} (more : List Char)
    (h : Text.splitFirst? (closeTag name) (front ++ last) = none)
    (long : (closeTag name).length ≤ last.length) :
    Agree markers (scan markers (some name) (front ++ (last ++ more)))
      (precede (contentOf front) (scan markers (some name) (last ++ more))) := by
  have shifted := Text.splitFirst?_append_of_none more h long
  cases found : Text.splitFirst? (closeTag name) (last ++ more) with
  | some parts =>
    obtain ⟨before, rest⟩ := parts
    rw [found] at shifted
    rw [scan_inside_closed shifted, scan_inside_closed found]
    refine ⟨?_, rfl⟩
    simp only [precede, ← List.append_assoc]
    exact (((contentOf_append front before).append (Alike.refl _)).append (Alike.refl _))
  | none =>
    rw [found] at shifted
    have size : (front ++ (last ++ more)).length - (closeTag name).length =
        front.length + ((last ++ more).length - (closeTag name).length) := by
      simp only [List.length_append]
      omega
    rw [scan_inside_open shifted, scan_inside_open found, size, List.take_length_add_append,
      List.drop_length_add_append]
    exact ⟨contentOf_append _ _, rfl⟩

/-- What is kept inside a tag is enough to find the closing tag when more text follows. -/
theorem scan_inside_append {name : String} {buffer : List Char}
    (h : Text.splitFirst? (closeTag name) buffer = none) (more : List Char) :
    Agree markers (scan markers (some name) (buffer ++ more))
      (resume markers (scan markers (some name) buffer) more) := by
  rw [scan_inside_open h]
  generalize hsafe : buffer.length - (closeTag name).length = safe
  rcases Nat.lt_or_ge buffer.length (closeTag name).length with short | long
  · obtain rfl : safe = 0 := by omega
    exact Agree.refl _
  · have parts := List.take_append_drop safe buffer
    have kept : (closeTag name).length ≤ (buffer.drop safe).length := by
      rw [List.length_drop]
      omega
    rw [← parts] at h
    have front : Agree markers _ _ := scan_inside_front more h kept
    rw [← List.append_assoc, parts] at front
    exact front

/-- Scanning a text at once agrees with scanning a part of it and then going on. -/
theorem scan_append (single : SingleBracket markers) (inside : Option String)
    (buffer more : List Char) :
    Agree markers (scan markers inside (buffer ++ more))
      (resume markers (scan markers inside buffer) more) := by
  induction inside, buffer using scan.induct markers with
  | case1 buffer h =>
    have keep := scan_congr single (s := ⟨buffer, none⟩) (t := ⟨partialMarker markers buffer, none⟩)
      (by
        rw [settled_outside, settled_outside, ← pending_of_none h, pending_idem single]) more
    rw [scan_outside_idle h]
    exact keep
  | case2 buffer tail h ht =>
    rw [scan_outside_waiting h ht]
    exact Agree.refl _
  | case3 buffer tail h c rest ht _ body hbody ih =>
    obtain ⟨drops, takes⟩ := dropWhile_append_of_eq_cons ht more
    rw [scan_outside_tag h ht, scan_outside_tag (fromMarker?_append single more h) drops]
    have unnamed : tagName? ((tail.takeWhile beforeEnd).drop 1) = none := hbody
    simpa only [afterTag, takes, unnamed] using ih
  | case4 buffer tail h c rest ht _ body name hbody _ _ _ ih =>
    obtain ⟨drops, takes⟩ := dropWhile_append_of_eq_cons ht more
    rw [scan_outside_tag h ht, scan_outside_tag (fromMarker?_append single more h) drops]
    simp only [afterTag, takes,
      show tagName? ((tail.takeWhile beforeEnd).drop 1) = some name from hbody, resume_precede]
    exact ih.precede _
  | case5 buffer name before rest h _ _ _ _ ih =>
    rw [scan_inside_closed h, scan_inside_closed (Text.splitFirst?_append more h), resume_precede]
    exact ih.precede _
  | case6 buffer name h => exact scan_inside_append h more

end Scanning

/-! ### Pieces of a text -/

theorem feedAll_cons (vocabulary : List String) (state : TagState) (chunk : String)
    (rest : List String) :
    feedAll vocabulary state (chunk :: rest) =
      precede (feed vocabulary state chunk).1
        (feedAll vocabulary (feed vocabulary state chunk).2 rest) := rfl

theorem feed_append {vocabulary : List String} (plain : Plain vocabulary) (state : TagState)
    (chunk more : String) :
    Agree (vocabulary.map marker) (feed vocabulary state (chunk ++ more))
      (precede (feed vocabulary state chunk).1
        (feed vocabulary (feed vocabulary state chunk).2 more)) := by
  have agree := scan_append plain.singleBracket state.inside (state.buffer ++ chunk.toList)
    more.toList
  rw [List.append_assoc, ← String.toList_append] at agree
  exact agree

/-- A stream comes to the same from the pieces of a text as from the text. -/
theorem feedAll_agree {vocabulary : List String} (plain : Plain vocabulary) (state : TagState)
    (chunk : String) (rest : List String) :
    Agree (vocabulary.map marker) (feed vocabulary state (String.join (chunk :: rest)))
      (feedAll vocabulary state (chunk :: rest)) := by
  induction rest generalizing state chunk with
  | nil => simpa [feedAll] using Agree.refl _
  | cons next rest ih =>
    rw [feedAll_cons, String.join_cons]
    exact (feed_append plain state chunk _).trans ((ih _ next).precede _)

/-- The pieces of a text do not matter, be there any or none. -/
theorem feedAll_join {vocabulary : List String} (plain : Plain vocabulary)
    (chunks : List String) :
    Agree (vocabulary.map marker) (feed vocabulary {} (String.join chunks))
      (feedAll vocabulary {} chunks) := by
  cases chunks with
  | nil =>
    have idle : feed vocabulary {} "" = ([], {}) := scan_outside_idle rfl
    rw [String.join_nil, idle]
    exact Agree.refl _
  | cons chunk rest => exact feedAll_agree plain {} chunk rest

theorem Agree.transcript {markers : List (List Char)} {a b : List TagEvent × TagState}
    (h : Agree markers a b) : coalesce (a.1 ++ flush a.2) = coalesce (b.1 ++ flush b.2) := by
  rw [← flush_settled markers a.2, h.state, flush_settled]
  exact h.events _

/-- All that is reported of a text that comes in the pieces. -/
def transcript (vocabulary : List String) (chunks : List String) : List TagEvent :=
  (feedAll vocabulary {} chunks).1 ++ flush (feedAll vocabulary {} chunks).2

theorem transcript_singleton (vocabulary : List String) (text : String) :
    transcript vocabulary [text] =
      (feed vocabulary {} text).1 ++ flush (feed vocabulary {} text).2 := by
  simp [transcript, feedAll]

/-- With a plain vocabulary the pieces in which a text arrives make no difference to what is
reported, apart from the places at which content is cut. -/
theorem coalesce_transcript {vocabulary : List String} (plain : Plain vocabulary)
    (chunks : List String) :
    coalesce (transcript vocabulary chunks) =
      coalesce (transcript vocabulary [String.join chunks]) := by
  rw [transcript_singleton]
  cases chunks with
  | nil =>
    have idle : feed vocabulary {} "" = ([], {}) := scan_outside_idle rfl
    rw [String.join_nil, idle]
    rfl
  | cons chunk rest => exact (feedAll_agree plain {} chunk rest).transcript.symm

/-- Pieces that cut a marker, an attribute and a closing tag, and a tag that stays open. -/
theorem coalesce_transcript_cut :
    Plain standardVocabulary ∧
      coalesce (transcript standardVocabulary
        ["x<st", "ep type=\"a", "\">b</s", "", "tep>c</step><plan>d</pl"]) =
      coalesce (transcript standardVocabulary
        ["x<step type=\"a\">b</step>c</step><plan>d</pl"]) :=
  ⟨by decide, coalesce_transcript (by decide)
    ["x<st", "ep type=\"a", "\">b</s", "", "tep>c</step><plan>d</pl"]⟩

end WorkflowRepair.TagStream
