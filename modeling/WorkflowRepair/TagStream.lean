import WorkflowRepair.Text.Search
import WorkflowRepair.Text.Word

/-!
Tags in a text that arrives in pieces. Outside a tag nothing is reported and only what may become a
tag is kept; inside one, everything that cannot belong to its closing tag is reported as content at
once. Tags do not nest: up to its closing tag all that stands in a tag is content.
-/

namespace WorkflowRepair

/-- What is reported about the tags of a text. -/
inductive TagEvent where
  | opened (name : String) (attributes : List (String × String))
  | content (text : String)
  | closed (name : String)
  | endOfStream
deriving DecidableEq, Repr

/-- What is known of a text between two pieces: the characters kept and the tag that is open. -/
structure TagState where
  buffer : List Char := []
  inside : Option String := none
deriving DecidableEq, Repr, Inhabited

namespace TagStream

/-- The tags that are looked for where nothing else is asked for. -/
def standardVocabulary : List String := ["step", "plan"]

def marker (name : String) : List Char := '<' :: name.toList

def closeTag (name : String) : List Char := '<' :: '/' :: name.toList ++ ['>']

/-- What is left from the first marker on. -/
def fromMarker? (markers : List (List Char)) : List Char → Option (List Char)
  | [] => none
  | c :: rest =>
    if markers.any (·.isPrefixOf (c :: rest)) then some (c :: rest) else fromMarker? markers rest

/-- The longest ending that is the beginning of a marker without being one. -/
def partialMarker (markers : List (List Char)) : List Char → List Char
  | [] => []
  | c :: rest =>
    if markers.any fun m => (c :: rest).isPrefixOf m && (c :: rest).length < m.length then c :: rest
    else partialMarker markers rest

def beforeEnd (c : Char) : Bool := c ≠ '>'

/-- Whether a character may stand in the value of an attribute. -/
def inValue (c : Char) : Bool := c ≠ '"'

/-- What follows an attribute is shorter than what the attribute begins. -/
theorem length_lt_of_attribute {text body after : List Char} {quote : Char}
    (afterName : text.dropWhile Text.isWord = '=' :: '"' :: body)
    (afterValue : body.dropWhile inValue = quote :: after) : after.length < text.length := by
  have value := (List.dropWhile_sublist inValue (l := body)).length_le
  have name := (List.dropWhile_sublist Text.isWord (l := text)).length_le
  rw [afterValue, List.length_cons] at value
  rw [afterName, List.length_cons, List.length_cons] at name
  exact Nat.lt_of_lt_of_le value (Nat.le_trans (Nat.le_add_right _ 2) name)

/-- The attributes written in a tag, in order: a word, the equals sign and a value in quotes. -/
def findAttributes : List Char → List (String × String)
  | [] => []
  | c :: rest =>
    if Text.isWord c then
      match _ : (c :: rest).dropWhile Text.isWord with
      | '=' :: '"' :: body =>
        match _ : body.dropWhile inValue with
        | _ :: after =>
          (String.ofList ((c :: rest).takeWhile Text.isWord),
            String.ofList (body.takeWhile inValue)) :: findAttributes after
        | [] => []
      | _ => findAttributes (rest.dropWhile Text.isWord)
    else findAttributes rest
termination_by cs => cs.length
decreasing_by
  · exact length_lt_of_attribute ‹_› ‹_›
  · exact Nat.lt_succ_of_le (List.dropWhile_sublist Text.isWord).length_le
  · simp

/-- The attributes by name: a repeated name keeps its place and takes the last value. -/
def setAttribute (attributes : List (String × String)) (new : String × String) :
    List (String × String) :=
  if attributes.any (·.1 = new.1) then attributes.map fun a => if a.1 = new.1 then new else a
  else attributes ++ [new]

def attributes (body : List Char) : List (String × String) :=
  (findAttributes body).foldl setAttribute []

def tagName? (body : List Char) : Option String :=
  match body.takeWhile Text.isWord with
  | [] => none
  | name => some (String.ofList name)

/-- Some content, unless it is empty. -/
def contentOf (cs : List Char) : List TagEvent :=
  if cs.isEmpty then [] else [.content (String.ofList cs)]

theorem length_fromMarker?_le {markers : List (List Char)} {cs tail : List Char}
    (h : fromMarker? markers cs = some tail) : tail.length ≤ cs.length := by
  induction cs with
  | nil => simp [fromMarker?] at h
  | cons c rest ih =>
    simp only [fromMarker?] at h
    split at h
    · cases h; exact Nat.le_refl _
    · exact Nat.le_succ_of_le (ih h)

theorem length_lt_of_dropWhile {p : Char → Bool} {cs rest : List Char} {c : Char}
    (h : cs.dropWhile p = c :: rest) : rest.length < cs.length := by
  have := (List.dropWhile_sublist p (l := cs)).length_le
  rw [h, List.length_cons] at this
  omega

theorem length_lt_of_splitFirst? {name : String} {cs before rest : List Char}
    (h : Text.splitFirst? (closeTag name) cs = some (before, rest)) : rest.length < cs.length := by
  rw [Text.splitFirst?_eq_some h]
  simp only [closeTag, List.length_append, List.length_cons, List.length_nil]
  omega

/-- Reports all that can be told from the characters at hand, and keeps the others. -/
def scan (markers : List (List Char)) (inside : Option String) (buffer : List Char) :
    List TagEvent × TagState :=
  match inside with
  | none =>
    match hm : fromMarker? markers buffer with
    | none => ([], ⟨partialMarker markers buffer, none⟩)
    | some tail =>
      match ht : tail.dropWhile beforeEnd with
      | [] => ([], ⟨buffer, none⟩)
      | _ :: rest =>
        have : rest.length < buffer.length :=
          Nat.lt_of_lt_of_le (length_lt_of_dropWhile ht) (length_fromMarker?_le hm)
        let body := (tail.takeWhile beforeEnd).drop 1
        match tagName? body with
        | none => scan markers none rest
        | some name =>
          let (events, state) := scan markers (some name) rest
          (.opened name (attributes body) :: events, state)
  | some name =>
    match hs : Text.splitFirst? (closeTag name) buffer with
    | some (before, rest) =>
      have : rest.length < buffer.length := length_lt_of_splitFirst? hs
      let (events, state) := scan markers none rest
      (contentOf before ++ .closed name :: events, state)
    | none =>
      let safe := buffer.length - (closeTag name).length
      (contentOf (buffer.take safe), ⟨buffer.drop safe, some name⟩)
termination_by buffer.length

/-- Takes in one more piece of the text. -/
def feed (vocabulary : List String) (state : TagState) (chunk : String) :
    List TagEvent × TagState :=
  scan (vocabulary.map marker) state.inside (state.buffer ++ chunk.toList)

/-- Takes in several pieces of the text, one after another. -/
def feedAll (vocabulary : List String) (state : TagState) : List String → List TagEvent × TagState
  | [] => ([], state)
  | chunk :: rest =>
    let (events, next) := feed vocabulary state chunk
    let (more, last) := feedAll vocabulary next rest
    (events ++ more, last)

/-- What is reported when the text is over; an open tag yields what it has kept. -/
def flush (state : TagState) : List TagEvent :=
  (if state.inside.isSome then contentOf state.buffer else []) ++ [.endOfStream]

/-- Joins neighbouring content. -/
def coalesce : List TagEvent → List TagEvent
  | [] => []
  | .content a :: rest =>
    match coalesce rest with
    | .content b :: more => .content (a ++ b) :: more
    | more => .content a :: more
  | event :: rest => event :: coalesce rest

end TagStream

end WorkflowRepair
