import Mathlib.Data.List.TakeWhile
import WorkflowRepair.Proofs.TagStream.Scan
import WorkflowRepair.Proofs.Text.Search

/-!
What a tag stream holds back between two pieces. Inside a tag it keeps no more characters than its
closing tag has, and everything before them has been told; outside it keeps the beginning of a
marker or a marker that has not come to its end. A piece is taken in turn by turn, each of which
finds a whole tag or a closing tag and shortens what is kept, or else is the last.
-/

namespace WorkflowRepair.TagStream

/-! ### Turns -/

/-- A turn: what is told, what is kept then, and whether another turn follows. -/
structure Turn where
  told : List TagEvent
  next : TagState
  goesOn : Bool

/-- One turn of taking in a text. Outside of tags it looks for a whole tag, inside for the end. -/
def turn (markers : List (List Char)) (state : TagState) : Turn :=
  match state.inside with
  | none =>
    match fromMarker? markers state.buffer with
    | none => ⟨[], ⟨partialMarker markers state.buffer, none⟩, false⟩
    | some tail =>
      match tail.dropWhile beforeEnd with
      | [] => ⟨[], state, false⟩
      | _ :: rest =>
        let body := (tail.takeWhile beforeEnd).drop 1
        match tagName? body with
        | none => ⟨[], ⟨rest, none⟩, true⟩
        | some name => ⟨[.opened name (attributes body)], ⟨rest, some name⟩, true⟩
  | some name =>
    match Text.splitFirst? (closeTag name) state.buffer with
    | some (before, rest) => ⟨contentOf before ++ [.closed name], ⟨rest, none⟩, true⟩
    | none =>
      let safe := state.buffer.length - (closeTag name).length
      ⟨contentOf (state.buffer.take safe), ⟨state.buffer.drop safe, some name⟩, false⟩

/-- So many turns, one after another until none follows, come to the outcome. -/
inductive Turns (markers : List (List Char)) : TagState → Nat → List TagEvent × TagState → Prop
  | last {state : TagState} (stops : (turn markers state).goesOn = false) :
      Turns markers state 1 ((turn markers state).told, (turn markers state).next)
  | more {state : TagState} {n : Nat} {outcome : List TagEvent × TagState}
      (follows : (turn markers state).goesOn = true)
      (rest : Turns markers (turn markers state).next n outcome) :
      Turns markers state (n + 1) (precede (turn markers state).told outcome)

section Turns

variable {markers : List (List Char)} {state : TagState}

/-- A scan is a turn, and another scan when one follows. -/
theorem scan_eq_turn (markers : List (List Char)) (state : TagState) :
    scan markers state.inside state.buffer =
      if (turn markers state).goesOn then
        precede (turn markers state).told
          (scan markers (turn markers state).next.inside (turn markers state).next.buffer)
      else ((turn markers state).told, (turn markers state).next) := by
  obtain ⟨buffer, inside⟩ := state
  cases inside with
  | none =>
    cases found : fromMarker? markers buffer with
    | none => simp [scan_outside_idle found, turn, found]
    | some tail =>
      cases whole : tail.dropWhile beforeEnd with
      | nil => simp [scan_outside_waiting found whole, turn, found, whole]
      | cons c rest =>
        rw [scan_outside_tag found whole, afterTag]
        cases named : tagName? ((tail.takeWhile beforeEnd).drop 1) <;>
          simp [-List.drop_one, turn, found, whole, named, precede]
  | some name =>
    cases found : Text.splitFirst? (closeTag name) buffer with
    | none => simp [scan_inside_open found, turn, found]
    | some parts => simp [scan_inside_closed found, turn, found]

/-- A turn that is not the last leaves less of the text. -/
theorem length_turn_next_lt (follows : (turn markers state).goesOn = true) :
    (turn markers state).next.buffer.length < state.buffer.length := by
  obtain ⟨buffer, inside⟩ := state
  cases inside with
  | none =>
    cases found : fromMarker? markers buffer with
    | none => simp [turn, found] at follows
    | some tail =>
      cases whole : tail.dropWhile beforeEnd with
      | nil => simp [turn, found, whole] at follows
      | cons c rest =>
        have shorter : rest.length < buffer.length :=
          Nat.lt_of_lt_of_le (length_lt_of_dropWhile whole) (length_fromMarker?_le found)
        cases named : tagName? ((tail.takeWhile beforeEnd).drop 1) <;>
          simpa [-List.drop_one, turn, found, whole, named] using shorter
  | some name =>
    cases found : Text.splitFirst? (closeTag name) buffer with
    | none => simp [turn, found] at follows
    | some parts => simpa [turn, found] using length_lt_of_splitFirst? found

/-- The turns come to an end, after no more of them than there are characters, and one. -/
theorem exists_turns (markers : List (List Char)) (state : TagState) :
    ∃ n ≤ state.buffer.length + 1,
      Turns markers state n (scan markers state.inside state.buffer) := by
  induction size : state.buffer.length using Nat.strongRecOn generalizing state with
  | ind size ih =>
    subst size
    rw [scan_eq_turn]
    cases goes : (turn markers state).goesOn with
    | false => exact ⟨1, by omega, .last goes⟩
    | true =>
      have shorter := length_turn_next_lt goes
      obtain ⟨n, few, rest⟩ := ih _ shorter (turn markers state).next rfl
      exact ⟨n + 1, by omega, .more goes rest⟩

end Turns

/-! ### What is kept -/

/-- No more is held back than must be. Inside of a tag that is what may be a part of its closing
tag; outside, what begins a marker, or a marker and what follows it up to the end of the tag. -/
def HoldsLittle (markers : List (List Char)) (state : TagState) : Prop :=
  match state.inside with
  | some name =>
    ¬closeTag name <:+: state.buffer ∧ state.buffer.length ≤ (closeTag name).length
  | none =>
    (∃ m ∈ markers, state.buffer <+: m ∧ state.buffer ≠ m) ∨
      ∃ before tail, state.buffer = before ++ tail ∧ Text.FirstOf markers before tail ∧ '>' ∉ tail

section Kept

variable {markers : List (List Char)}

theorem firstOf_of_fromMarker? {cs tail : List Char} (h : fromMarker? markers cs = some tail) :
    ∃ before, cs = before ++ tail ∧ Text.FirstOf markers before tail := by
  induction cs with
  | nil => simp [fromMarker?] at h
  | cons c rest ih =>
    by_cases here : ∃ m ∈ markers, m <+: c :: rest
    · obtain ⟨m, mem, begins⟩ := here
      rw [fromMarker?_cons_of_marker mem begins] at h
      cases h
      exact ⟨[], rfl, .nil mem begins⟩
    · have none : ∀ m ∈ markers, ¬m <+: c :: rest := by simpa using here
      rw [fromMarker?_cons_of_none none] at h
      obtain ⟨before, rfl, first⟩ := ih h
      exact ⟨c :: before, rfl, first.cons none⟩

theorem partialMarker_suffix (cs : List Char) : partialMarker markers cs <:+ cs := by
  induction cs with
  | nil => exact List.suffix_rfl
  | cons c rest ih =>
    rw [partialMarker_cons]
    split
    · exact List.suffix_rfl
    · exact ih.trans (List.suffix_cons c rest)

/-- The ending that is kept begins a marker without being one. -/
theorem partialMarker_begins (some : ∃ m ∈ markers, m ≠ []) (cs : List Char) :
    ∃ m ∈ markers, partialMarker markers cs <+: m ∧ partialMarker markers cs ≠ m := by
  induction cs with
  | nil =>
    obtain ⟨m, mem, filled⟩ := some
    exact ⟨m, mem, List.nil_prefix, Ne.symm filled⟩
  | cons c rest ih =>
    rw [partialMarker_cons]
    split
    · next begins =>
      obtain ⟨m, mem, begins, short⟩ := isPartial_iff.1 begins
      exact ⟨m, mem, begins, fun same => Nat.ne_of_lt short (congrArg List.length same)⟩
    · exact ih

theorem holdsLittle_scan (some : ∃ m ∈ markers, m ≠ []) (inside : Option String)
    (buffer : List Char) : HoldsLittle markers (scan markers inside buffer).2 := by
  induction inside, buffer using scan.induct markers with
  | case1 buffer h =>
    rw [scan_outside_idle h]
    exact .inl (partialMarker_begins some buffer)
  | case2 buffer tail h ht =>
    rw [scan_outside_waiting h ht]
    obtain ⟨before, parts, first⟩ := firstOf_of_fromMarker? h
    refine .inr ⟨before, tail, parts, first, fun mem => ?_⟩
    exact absurd (List.dropWhile_eq_nil_iff.1 ht '>' mem) (by decide)
  | case3 buffer tail h c rest ht _ body hbody ih =>
    have unnamed : tagName? ((tail.takeWhile beforeEnd).drop 1) = none := hbody
    rw [scan_outside_tag h ht, afterTag, unnamed]
    exact ih
  | case4 buffer tail h c rest ht _ body name hbody _ _ _ ih =>
    have named : tagName? ((tail.takeWhile beforeEnd).drop 1) = name := hbody
    rw [scan_outside_tag h ht, afterTag, named]
    exact ih
  | case5 buffer name before rest h _ _ _ _ ih =>
    rw [scan_inside_closed h]
    exact ih
  | case6 buffer name h =>
    rw [scan_inside_open h]
    have absent := Text.splitFirst?_eq_none_iff.1 h
    refine ⟨fun inside => absent (inside.trans (List.drop_suffix _ _).isInfix), ?_⟩
    rw [List.length_drop]
    omega

end Kept

/-! ### What has been told -/

/-- All that was heard is told or kept. Inside of a tag the text heard since its opening has been
told as content, up to what is kept; outside, what is kept is the last that was heard. -/
inductive Accounts : List Char → List TagEvent → TagState → Prop
  | outside {heard : List Char} {told : List TagEvent} {buffer : List Char}
      (last : buffer <:+ heard) : Accounts heard told ⟨buffer, none⟩
  | inside {before body buffer : List Char} {front : List TagEvent} {pieces : List String}
      {name : String} (whole : '>' ∉ body) (named : tagName? body = some name) :
      Accounts (before ++ '<' :: (body ++ '>' :: ((String.join pieces).toList ++ buffer)))
        (front ++ .opened name (attributes body) :: pieces.map .content) ⟨buffer, some name⟩

section Accounts

variable {heard : List Char} {told : List TagEvent}

/-- Where a tag opens nothing of its text has been told yet. -/
theorem Accounts.opening {body : List Char} {name : String} (before buffer : List Char)
    (front : List TagEvent) (whole : '>' ∉ body) (named : tagName? body = some name) :
    Accounts (before ++ '<' :: (body ++ '>' :: buffer))
      (front ++ [.opened name (attributes body)]) ⟨buffer, some name⟩ :=
  @Accounts.inside before body buffer front [] name whole named

theorem Accounts.suffix {state : TagState} (h : Accounts heard told state) :
    state.buffer <:+ heard := by
  cases h with
  | outside last => exact last
  | @inside before body buffer front pieces name =>
    exact ⟨before ++ '<' :: (body ++ '>' :: (String.join pieces).toList), by simp⟩

theorem Accounts.hear {buffer : List Char} {inside : Option String}
    (h : Accounts heard told ⟨buffer, inside⟩) (more : List Char) :
    Accounts (heard ++ more) told ⟨buffer ++ more, inside⟩ := by
  cases h with
  | outside last =>
    obtain ⟨before, rfl⟩ := last
    exact .outside ⟨before, (List.append_assoc _ _ _).symm⟩
  | inside whole named =>
    simp only [List.append_assoc, List.cons_append]
    exact .inside whole named

/-- What is told as content need not be kept. -/
theorem Accounts.keep {buffer : List Char} {name : String}
    (h : Accounts heard told ⟨buffer, some name⟩) (safe : Nat) :
    Accounts heard (told ++ contentOf (buffer.take safe)) ⟨buffer.drop safe, some name⟩ := by
  cases h with
  | @inside before body _ front pieces _ whole named =>
    by_cases none : buffer.take safe = []
    · have all : buffer.drop safe = buffer := by
        simpa [none] using List.take_append_drop safe buffer
      simpa [contentOf, none, all] using Accounts.inside whole named
    · have heard : (String.join pieces).toList ++ buffer =
          (String.join (pieces ++ [String.ofList (buffer.take safe)])).toList ++
            buffer.drop safe := by simp
      have told : front ++ .opened name (attributes body) :: pieces.map .content ++
            contentOf (buffer.take safe) =
          front ++ .opened name (attributes body) ::
            (pieces ++ [String.ofList (buffer.take safe)]).map .content := by
        simp [contentOf, none]
      rw [heard, told]
      exact .inside whole named

theorem suffix_of_dropWhile {p : Char → Bool} {cs rest : List Char} {c : Char}
    (h : cs.dropWhile p = c :: rest) : rest <:+ cs :=
  (List.suffix_cons c rest).trans (h ▸ List.dropWhile_suffix p)

/-- A whole tag is an opening bracket, its body and a closing bracket. -/
theorem eq_of_whole {vocabulary : List String} {tail rest : List Char} {c : Char}
    (begins : ∃ m ∈ vocabulary.map marker, m <+: tail)
    (whole : tail.dropWhile beforeEnd = c :: rest) :
    tail = '<' :: ((tail.takeWhile beforeEnd).drop 1 ++ '>' :: rest) ∧
      '>' ∉ (tail.takeWhile beforeEnd).drop 1 := by
  obtain ⟨m, mem, begins⟩ := begins
  obtain ⟨name, -, rfl⟩ := List.mem_map.1 mem
  obtain ⟨cs, rfl⟩ := begins
  have body : (marker name ++ cs).takeWhile beforeEnd =
      '<' :: (name.toList ++ cs).takeWhile beforeEnd := rfl
  have parts := List.takeWhile_append_dropWhile (p := beforeEnd) (l := marker name ++ cs)
  have last : beforeEnd c = false := by
    have stops := List.head_dropWhile_not beforeEnd (l := marker name ++ cs) (by simp [whole])
    simpa [whole] using stops
  obtain rfl : c = '>' := by simpa [beforeEnd] using last
  rw [whole, body] at parts
  rw [body]
  refine ⟨parts.symm, fun mem => ?_⟩
  exact absurd (List.mem_takeWhile_imp mem) (by decide)

/-- Taking in a text keeps the account, whatever has been told before. -/
theorem accounts_scan {vocabulary : List String} (inside : Option String) (buffer : List Char) :
    ∀ told, Accounts heard told ⟨buffer, inside⟩ →
      Accounts heard (told ++ (scan (vocabulary.map marker) inside buffer).1)
        (scan (vocabulary.map marker) inside buffer).2 := by
  induction inside, buffer using scan.induct (vocabulary.map marker) with
  | case1 buffer none =>
    intro told h
    rw [scan_outside_idle none]
    exact .outside ((partialMarker_suffix buffer).trans h.suffix)
  | case2 buffer tail found unclosed =>
    intro told h
    rw [scan_outside_waiting found unclosed]
    exact .outside h.suffix
  | case3 buffer tail found c rest ended _ body hbody ih =>
    intro told h
    have unnamed : tagName? ((tail.takeWhile beforeEnd).drop 1) = none := hbody
    rw [scan_outside_tag found ended, afterTag, unnamed]
    exact ih told (.outside ((suffix_of_dropWhile ended).trans
      ((suffix_of_fromMarker? found).trans h.suffix)))
  | case4 buffer tail found c rest ended _ body name hbody _ _ _ ih =>
    intro told h
    have named : tagName? ((tail.takeWhile beforeEnd).drop 1) = name := hbody
    rw [scan_outside_tag found ended, afterTag, named]
    obtain ⟨whole, closed⟩ := eq_of_whole (marker_of_fromMarker? found) ended
    obtain ⟨before, rfl⟩ := (suffix_of_fromMarker? found).trans h.suffix
    have opened := Accounts.opening before rest told closed named
    rw [← whole] at opened
    simpa [precede] using ih _ opened
  | case5 buffer name before rest found _ _ _ _ ih =>
    intro told h
    rw [scan_inside_closed found]
    have later : rest <:+ buffer :=
      ⟨before ++ closeTag name, (Text.splitFirst?_eq_some found).symm⟩
    rw [precede, ← List.append_assoc]
    exact ih _ (.outside (later.trans h.suffix))
  | case6 buffer name none =>
    intro told h
    rw [scan_inside_open none]
    exact h.keep _

end Accounts

/-! ### Runs -/

/-- The states of a stream between two calls, with all that was heard and told up to then. A stream
may be ended at any time, and is then ready for another text. -/
inductive Reached (vocabulary : List String) : List Char → List TagEvent → TagState → Prop
  | start : Reached vocabulary [] [] {}
  | piece {heard : List Char} {told : List TagEvent} {state : TagState}
      (reached : Reached vocabulary heard told state) (chunk : String) :
      Reached vocabulary (heard ++ chunk.toList) (told ++ (feed vocabulary state chunk).1)
        (feed vocabulary state chunk).2
  | ended {heard : List Char} {told : List TagEvent} {state : TagState}
      (reached : Reached vocabulary heard told state) :
      Reached vocabulary heard (told ++ flush state) {}

section Reached

variable {vocabulary : List String} {heard : List Char} {told : List TagEvent} {state : TagState}

theorem exists_marker_ne_nil (given : vocabulary ≠ []) :
    ∃ m ∈ vocabulary.map marker, m ≠ [] := by
  obtain ⟨name, rest, rfl⟩ := List.exists_cons_of_ne_nil given
  exact ⟨marker name, by simp, List.cons_ne_nil _ _⟩

theorem holdsLittle_empty (given : vocabulary ≠ []) :
    HoldsLittle (vocabulary.map marker) {} := by
  obtain ⟨m, mem, filled⟩ := exists_marker_ne_nil given
  exact .inl ⟨m, mem, List.nil_prefix, Ne.symm filled⟩

theorem Reached.holdsLittle (given : vocabulary ≠ []) (h : Reached vocabulary heard told state) :
    HoldsLittle (vocabulary.map marker) state := by
  cases h with
  | start => exact holdsLittle_empty given
  | piece _ chunk => exact holdsLittle_scan (exists_marker_ne_nil given) _ _
  | ended _ => exact holdsLittle_empty given

theorem Reached.accounts (h : Reached vocabulary heard told state) :
    Accounts heard told state := by
  induction h with
  | start => exact .outside List.nil_suffix
  | piece _ chunk ih => exact accounts_scan _ _ _ (ih.hear chunk.toList)
  | ended _ _ => exact .outside List.nil_suffix

/-- Between two calls a stream holds no more back than it must, all that it has let go of inside of
a tag has been told as content, and whatever piece comes next is taken in by finitely many turns. -/
theorem holds_back_little (given : vocabulary ≠ []) (h : Reached vocabulary heard told state) :
    HoldsLittle (vocabulary.map marker) state ∧ Accounts heard told state ∧
      ∀ chunk : String, ∃ n ≤ (state.buffer ++ chunk.toList).length + 1,
        Turns (vocabulary.map marker) ⟨state.buffer ++ chunk.toList, state.inside⟩ n
          (feed vocabulary state chunk) :=
  ⟨h.holdsLittle given, h.accounts, fun chunk =>
    exists_turns _ ⟨state.buffer ++ chunk.toList, state.inside⟩⟩

end Reached

theorem reached_within_tag :
    Reached standardVocabulary "x<step>abcdefgh</st".toList [.opened "step" [], .content "abcde"]
      ⟨"fgh</st".toList, some "step"⟩ := by
  have told : feed standardVocabulary {} "x<step>abcdefgh</st" =
      ([.opened "step" [], .content "abcde"], ⟨"fgh</st".toList, some "step"⟩) := by
    decide +kernel
  have fresh : Reached standardVocabulary [] [] {} := .start
  simpa [told] using fresh.piece "x<step>abcdefgh</st"

/-- A tag whose end is under way: as many characters are kept as the end has. -/
theorem holds_back_little_within_tag :
    (standardVocabulary ≠ [] ∧
      Reached standardVocabulary "x<step>abcdefgh</st".toList
        [.opened "step" [], .content "abcde"] ⟨"fgh</st".toList, some "step"⟩) ∧
    HoldsLittle (standardVocabulary.map marker) ⟨"fgh</st".toList, some "step"⟩ ∧
    Accounts "x<step>abcdefgh</st".toList [.opened "step" [], .content "abcde"]
      ⟨"fgh</st".toList, some "step"⟩ ∧
    ∀ chunk : String, ∃ n ≤ ("fgh</st".toList ++ chunk.toList).length + 1,
      Turns (standardVocabulary.map marker) ⟨"fgh</st".toList ++ chunk.toList, some "step"⟩ n
        (feed standardVocabulary ⟨"fgh</st".toList, some "step"⟩ chunk) :=
  ⟨⟨by decide, reached_within_tag⟩, holds_back_little (by decide) reached_within_tag⟩

end WorkflowRepair.TagStream
