import WorkflowRepair.Text.Numeral
import WorkflowRepair.Yaml.Scalar

/-!
Tokens: scalars, the marks that stand in the text, and the beginnings and ends of blocks that follow
from the indentation.
-/

namespace WorkflowRepair.Yaml

/-- What a token is. -/
inductive Lexeme where
  | streamEnd
  | version (major : Int)
  | handle (name tags : String)
  | directive
  | documentStart
  | documentEnd
  | blockSequence
  | blockMapping
  | blockEnd
  | openBracket
  | closeBracket
  | openBrace
  | closeBrace
  | comma
  | entry
  | key
  | value
  | alias (name : String)
  | anchor (name : String)
  | tag (handle : Option String) (suffix : String)
  | scalar (text : String) (plain : Bool)
deriving DecidableEq, Repr

/-- A token with the place where it begins and the one behind it. -/
structure Token where
  lexeme : Lexeme
  start : Position
  stop : Position
deriving DecidableEq, Repr

/-- Whether a character may stand in the name of an anchor. -/
def isNameChar (c : Char) : Bool := c.isAlphanum || c = '-' || c = '_'

/-- The name of an anchor behind its first character. -/
def anchorName (c : Cursor) : Except ReadError (String × Cursor) :=
  let (name, d) := c.next.span isNameChar
  let closes : Char → Bool := fun ch =>
    isIndent ch || isBreak ch || ['?', ':', ',', ']', '\x7d', '%', '@', '\x60'].contains ch
  if name.isEmpty || !d.peek.all closes then failAt d.position else .ok (String.ofList name, d)

/-- Whether a character may stand in a tag. -/
def isTagChar (c : Char) : Bool :=
  isNameChar c || [';', '/', '?', ':', '@', '&', '=', '+', '$', ',', '.', '!', '~', '*', '\'', '(',
    ')', '[', ']', '%'].contains c

/-- Bytes in a tag, each written as a percent sign and two digits, and the cursor behind them. -/
def tagBytes : Nat → Cursor → Except ReadError (List UInt8 × Cursor)
  | 0, c => .ok ([], c)
  | fuel + 1, c =>
    if !c.sees '%' then .ok ([], c)
    else
      let digits := c.next.rest.take 2
      match hexNumber? digits with
      | some n => do
        if digits.length < 2 then failAt c.next.position
        else
          let (more, d) ← tagBytes fuel (c.skip 3)
          .ok (n.toUInt8 :: more, d)
      | none => failAt c.next.position

def tagEscape (c : Cursor) : Except ReadError (String × Cursor) := do
  let (bytes, d) ← tagBytes c.rest.length c
  match String.fromUTF8? ⟨bytes.toArray⟩ with
  | some text => .ok (text, d)
  | none => failAt c.position

/-- The longest text of a tag, with the bytes in it read. -/
def tagText : Nat → Cursor → Except ReadError (String × Cursor)
  | 0, c => .ok ("", c)
  | fuel + 1, c =>
    if c.sees '%' then do
      let (text, d) ← tagEscape c
      let (more, e) ← tagText fuel d
      .ok (text ++ more, e)
    else
      let (run, d) := c.span fun ch => isTagChar ch && ch ≠ '%'
      if run.isEmpty then .ok ("", c)
      else do
        let (more, e) ← tagText fuel d
        .ok (String.ofList run ++ more, e)

/-- The part of a tag that names it. -/
def tagSuffix (c : Cursor) : Except ReadError (String × Cursor) :=
  if c.seesAny isTagChar then tagText c.rest.length c else failAt c.position

/-- The part of a tag up to its second exclamation mark, or a single mark before a space. -/
def tagHandle (c : Cursor) : Except ReadError (String × Cursor) :=
  let (name, d) := c.next.span isNameChar
  if !c.sees '!' then failAt c.position
  else if c.next.sees ' ' then .ok ("!", c.next)
  else if d.sees '!' then .ok (String.ofList ('!' :: name ++ ['!']), d.next)
  else failAt d.position

/-- Whether there is an exclamation mark before the next space or end of a line. -/
def hasMark (cs : List Char) : Bool :=
  (cs.takeWhile fun c => !(isSpace c || isBreak c)).contains '!'

/-- Whether a space, the line or the text ends here what may not hold a tab. -/
def endsTag (c : Cursor) : Bool := c.sees ' ' || endsLine c.peek

/-- A tag: its handle and what names it. -/
def tagParts (c : Cursor) : Except ReadError ((Option String × String) × Cursor) := do
  let (parts, d) ←
    if c.peekAt 1 == some '<' then do
      let (suffix, d) ← tagSuffix (c.skip 2)
      if d.sees '>' then pure ((none, suffix), d.next) else failAt d.position
    else if endsWord (c.peekAt 1) then pure ((none, "!"), c.next)
    else do
      let (handle, d) ← if hasMark (c.rest.drop 1) then tagHandle c else pure ("!", c.next)
      let (suffix, e) ← tagSuffix d
      pure ((some handle, suffix), e)
  if endsTag d then .ok (parts, d) else failAt d.position

def directiveNumber (c : Cursor) : Except ReadError (Int × Cursor) :=
  let (digits, d) := c.span Char.isDigit
  match Text.readWhole 10 digits with
  | .ok n => .ok (n, d)
  | .error .malformed => failAt d.position
  | .error (.tooManyDigits count) => failWith (.tooManyDigits count)

def versionDirective (c : Cursor) : Except ReadError (Lexeme × Cursor) := do
  let (major, d) ← directiveNumber (c.skipWhile isSpace)
  if !d.sees '.' then failAt d.position
  else
    let (_, e) ← directiveNumber d.next
    if endsTag e then .ok (.version major, e) else failAt e.position

/-- A handle and the beginning of the tags for which it stands, behind the name of the directive. -/
def handleDirective (c : Cursor) : Except ReadError (Lexeme × Cursor) := do
  let (name, d) ← tagHandle (c.skipWhile isSpace)
  if !d.sees ' ' then failAt d.position
  else
    let (tags, e) ← tagSuffix (d.skipWhile isSpace)
    if endsTag e then .ok (.handle name tags, e) else failAt e.position

def directiveLine (c : Cursor) : Except ReadError (Lexeme × Cursor) := do
  let (name, d) := c.next.span isNameChar
  if name.isEmpty || !endsTag d then failAt d.position
  else
    let (lexeme, e) ←
      if name = "YAML".toList then versionDirective d
      else if name = "TAG".toList then handleDirective d
      else pure (.directive, d.skipWhile fun ch => !isBreak ch)
    .ok (lexeme, ← skipLineEnd e)

end WorkflowRepair.Yaml
