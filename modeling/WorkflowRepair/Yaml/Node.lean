import WorkflowRepair.Yaml.Graph
import WorkflowRepair.Yaml.Token

/-!
From tokens to nodes. A node has the kind that the tag before it names; one without a tag has the
kind of its shape. The tags are written with handles, which a document may declare.
-/

namespace WorkflowRepair.Yaml

/-- The tokens that are left, why the text cannot be read on behind them, the nodes so far, their
numbers by their anchors, and what the handles of tags stand for. -/
structure Reader where
  tokens : List Token
  failure : ReadError
  nodes : Graph := #[]
  anchors : List (String × Nat) := []
  handles : List (String × String) := []

/-- A part of the reading, which may fail. -/
abbrev Parse (α : Type) : Type := StateT Reader (Except ReadError) α

/-- The handles that need no declaration. -/
def standardHandles : List (String × String) := [("!", "!"), ("!!", tagStem)]

namespace Parse

def refuse {α : Type} (place : Position) : Parse α := fun _ => failAt place

def peek : Parse Token := fun r =>
  match r.tokens with
  | token :: _ => .ok (token, r)
  | [] => .error r.failure

/-- Goes on behind the next token. -/
def drop : Parse Unit := fun r => .ok ((), { r with tokens := r.tokens.drop 1 })

/-- Whether the next token is one of the given ones. -/
def sees (lexemes : List Lexeme) : Parse Bool := do return lexemes.contains (← peek).lexeme

/-- Goes on behind the next token, which has to be the given one. -/
def expect (lexeme : Lexeme) : Parse Unit := do
  let token ← peek
  if token.lexeme = lexeme then drop else refuse token.start

def add (node : Node) : Parse Nat := fun r =>
  .ok (r.nodes.size, { r with nodes := r.nodes.push node })

/-- Adds a scalar that is left out. -/
def missing (place : Position) : Parse Nat := add (.missing place)

/-- The number of the node with an anchor, asked for at a place. -/
def aliased (name : String) (place : Position) : Parse Nat := fun r =>
  match r.anchors.lookup name with
  | some number => .ok (number, r)
  | none => failAt place

/-- Keeps an anchor, new at a place, for the next node. -/
def declare (anchor : Option String) (place : Position) : Parse Unit := fun r =>
  match anchor with
  | none => .ok ((), r)
  | some name =>
    if (r.anchors.lookup name).isSome then failAt place
    else .ok ((), { r with anchors := (name, r.nodes.size) :: r.anchors })

/-- Adds a node whose content is read behind it, so that it may stand in its own content. -/
def addAround (start : Position) (kind : Kind) (content : Parse Content) : Parse Nat := do
  let number ← add ⟨start, kind, .text ""⟩
  let content ← content
  modify fun r => { r with nodes := r.nodes.setIfInBounds number ⟨start, kind, content⟩ }
  return number

def tagName (handle : Option String) (suffix : String) (place : Position) : Parse String := fun r =>
  match handle with
  | none => .ok (suffix, r)
  | some name =>
    match r.handles.lookup name with
    | some tags => .ok (tags ++ suffix, r)
    | none => failAt place

/-- What may stand before a node: an anchor and a tag in either order, and where the first begins.
-/
structure Properties where
  anchor : Option String := none
  tag : Option String := none
  start : Option Position := none

/-- The anchor that comes next, if one does. -/
def anchor (p : Properties) : Parse Properties := do
  let token ← peek
  match token.lexeme with
  | .anchor name =>
    drop
    return { p with anchor := some name, start := p.start <|> some token.start }
  | _ => return p

/-- The tag that comes next, if one does, with its place. -/
def tag (p : Properties) : Parse (Properties × Option (Option String × String × Position)) := do
  let token ← peek
  match token.lexeme with
  | .tag handle suffix =>
    drop
    return ({ p with start := p.start <|> some token.start }, some (handle, suffix, token.start))
  | _ => return (p, none)

/-- What stands before a node. -/
def properties : Parse Properties := do
  let p ← anchor {}
  let (p, found) ← tag p
  match found with
  | none => return p
  | some (handle, suffix, place) =>
    let p ← if p.anchor.isSome then pure p else anchor p
    return { p with tag := some (← tagName handle suffix place) }

/-- The tag of a node, unless it leaves the kind to the shape. -/
def Properties.ownTag (p : Properties) : Option String := p.tag.filter (· ≠ "!")

def Properties.scalarKind (p : Properties) (plain : Bool) (text : String) : Kind :=
  match p.tag with
  | none => if plain then .ofPlain text else .text
  | some tag => if tag = "!" then .ofPlain text else .ofTag tag

/-- The kind of a collection with what stands before it. -/
def Properties.kind (p : Properties) (standard : Kind) : Kind :=
  (p.ownTag.map Kind.ofTag).getD standard

mutual

/-- A node; blocks only where they may stand, and entries of a sequence that is not indented only
behind a key. -/
def node (block indentless : Bool) : Nat → Parse Nat
  | 0 => do refuse (← peek).start
  | fuel + 1 => do
    let first ← peek
    match first.lexeme with
    | .alias name => drop; aliased name first.start
    | _ =>
      let p ← properties
      let token ← peek
      let start := p.start.getD token.start
      match token.lexeme with
      | .scalar text plain =>
        drop
        declare p.anchor start
        add ⟨start, p.scalarKind plain text, .text text⟩
      | .openBracket =>
        declare p.anchor start
        drop
        addAround start (p.kind .sequence) (.items <$> flowItems true fuel)
      | .openBrace =>
        declare p.anchor start
        drop
        addAround start (p.kind .mapping) (.members <$> flowMembers true fuel)
      | lexeme =>
        if indentless && lexeme == .entry then
          declare p.anchor start
          addAround start (p.kind .sequence) (.items <$> looseItems fuel)
        else if block && lexeme == .blockSequence then
          declare p.anchor start
          drop
          addAround start (p.kind .sequence) (.items <$> blockItems fuel)
        else if block && lexeme == .blockMapping then
          declare p.anchor start
          drop
          addAround start (p.kind .mapping) (.members <$> blockMembers fuel)
        else if p.start.isSome then
          declare p.anchor start
          add ⟨start, p.scalarKind true "", .text ""⟩
        else refuse token.start

/-- A node, or a missing one before the given tokens. -/
def nodeBefore (ends : List Lexeme) (block indentless : Bool) (place : Position) :
    Nat → Parse Nat
  | 0 => refuse place
  | fuel + 1 => do
    if ← sees ends then missing place else node block indentless fuel

/-- The entries of a block that is a sequence. -/
def blockItems : Nat → Parse (List Nat)
  | 0 => do refuse (← peek).start
  | fuel + 1 => do
    let token ← peek
    if token.lexeme = .entry then
      drop
      let item ← nodeBefore [.entry, .blockEnd] true false token.stop fuel
      return item :: (← blockItems fuel)
    else expect .blockEnd; return []

/-- The entries of a sequence that is not indented. -/
def looseItems : Nat → Parse (List Nat)
  | 0 => do refuse (← peek).start
  | fuel + 1 => do
    let token ← peek
    if token.lexeme = .entry then
      drop
      let item ← nodeBefore [.entry, .key, .value, .blockEnd] true false token.stop fuel
      return item :: (← looseItems fuel)
    else return []

/-- The value behind a key of a block, missing without its mark. -/
def blockValue : Nat → Parse Nat
  | 0 => do refuse (← peek).start
  | fuel + 1 => do
    let token ← peek
    if token.lexeme = .value then
      drop
      nodeBefore [.key, .value, .blockEnd] true true token.stop fuel
    else missing token.start

def blockMembers : Nat → Parse (List (Nat × Nat))
  | 0 => do refuse (← peek).start
  | fuel + 1 => do
    let token ← peek
    if token.lexeme = .key then
      drop
      let key ← nodeBefore [.key, .value, .blockEnd] true true token.stop fuel
      let value ← blockValue fuel
      return (key, value) :: (← blockMembers fuel)
    else expect .blockEnd; return []

/-- The value behind a key between brackets, missing without its mark. -/
def flowValue (ends : List Lexeme) : Nat → Parse Nat
  | 0 => do refuse (← peek).start
  | fuel + 1 => do
    let token ← peek
    if token.lexeme = .value then
      drop
      nodeBefore ends false false token.stop fuel
    else missing token.start

/-- The entries between square brackets; a key makes an entry a mapping with one member. -/
def flowItems (first : Bool) : Nat → Parse (List Nat)
  | 0 => do refuse (← peek).start
  | fuel + 1 => do
    if ← sees [.closeBracket] then drop; return []
    else
      if !first then expect .comma
      let token ← peek
      if token.lexeme = .key then
        drop
        let item ← addAround token.start .mapping do
          let key ← nodeBefore [.value, .comma, .closeBracket] false false token.stop fuel
          let value ← flowValue [.comma, .closeBracket] fuel
          return .members [(key, value)]
        return item :: (← flowItems false fuel)
      else if token.lexeme = .closeBracket then drop; return []
      else
        let item ← node false false fuel
        return item :: (← flowItems false fuel)

/-- The members between braces; without a mark a node is a key with a missing value. -/
def flowMembers (first : Bool) : Nat → Parse (List (Nat × Nat))
  | 0 => do refuse (← peek).start
  | fuel + 1 => do
    if ← sees [.closeBrace] then drop; return []
    else
      if !first then expect .comma
      let token ← peek
      if token.lexeme = .key then
        drop
        let key ← nodeBefore [.value, .comma, .closeBrace] false false token.stop fuel
        let value ← flowValue [.comma, .closeBrace] fuel
        return (key, value) :: (← flowMembers false fuel)
      else if token.lexeme = .closeBrace then drop; return []
      else
        let key ← node false false fuel
        let value ← missing (← peek).start
        return (key, value) :: (← flowMembers false fuel)

end

/-- Goes on behind the marks that end documents. -/
def skipEnds : Nat → Parse Unit
  | 0 => pure ()
  | fuel + 1 => do
    if ← sees [.documentEnd] then drop; skipEnds fuel else pure ()

/-- Declares a handle at a place, where it has to be new. -/
def declareHandle (name tags : String) (place : Position) : Parse Unit := fun r =>
  if (r.handles.lookup name).isSome then failAt place
  else .ok ((), { r with handles := (name, tags) :: r.handles })

/-- The directives before a document, of which one at most may give a version. -/
def directives (versioned : Bool) : Nat → Parse Unit
  | 0 => pure ()
  | fuel + 1 => do
    let token ← peek
    match token.lexeme with
    | .version major =>
      if versioned || major ≠ 1 then refuse token.start
      else drop; directives true fuel
    | .handle name tags =>
      drop
      declareHandle name tags token.start
      directives versioned fuel
    | .directive => drop; directives versioned fuel
    | _ => pure ()

/-- The directives before a document and the mark behind them; the standard handles are those that
the document does not declare itself. -/
def heading (fuel : Nat) : Parse Unit := do
  modify fun r => { r with handles := [] }
  directives false fuel
  expect .documentStart
  modify fun r => { r with handles := r.handles ++ standardHandles }

def beginsHeading : Lexeme → Bool
  | .version _ | .handle .. | .directive | .documentStart => true
  | _ => false

/-- The document at the front, if there is one. -/
def document (fuel : Nat) : Parse (Option Nat) := do
  let token ← peek
  if token.lexeme = .streamEnd then return none
  else if !beginsHeading token.lexeme then
    modify fun r => { r with handles := standardHandles }
    return some (← node true false fuel)
  else
    heading fuel
    let next ← peek
    if beginsHeading next.lexeme || next.lexeme = .documentEnd || next.lexeme = .streamEnd then
      return some (← missing next.start)
    else return some (← node true false fuel)

/-- The only document of a text, if it has one. -/
def onlyDocument (fuel : Nat) : Parse (Option Nat) := do
  let found ← document fuel
  skipEnds fuel
  let token ← peek
  if token.lexeme = .streamEnd then return found
  else
    heading fuel
    refuse token.start

end Parse

/-- The nodes of the only document that tokens write and the number of the outermost one; `failure`
is why the text cannot be read on behind the tokens. -/
def nodesOf (tokens : List Token) (failure : ReadError) :
    Except ReadError (Graph × Option Nat) :=
  match Parse.onlyDocument (4 * tokens.length + 8) { tokens := tokens, failure := failure } with
  | .ok (found, r) => .ok (r.nodes, found)
  | .error e => .error e

end WorkflowRepair.Yaml
