import WorkflowRepair.Yaml.Token

/-!
From a text to tokens. Blocks begin where something stands further in than before and end where
something stands further out. That something is a key is seen only at the colon behind it, so
every place at which a key may begin is kept until the line is over, and the mark of the key is
put in there.
-/

namespace WorkflowRepair.Yaml

/-- A place at which a key may begin: the number of tokens before it, and whether it has to be
one. -/
structure KeyPlace where
  number : Nat
  required : Bool
  index : Nat
  position : Position
deriving DecidableEq, Repr

/-- The state between two tokens: the tokens so far, the last one first, the brackets that are open,
the columns of the blocks that are open, and the places of keys by the number of open brackets. -/
structure Lexer where
  cursor : Cursor
  tokens : List Token := []
  depth : Int := 0
  indent : Int := -1
  outer : List Int := []
  keyAllowed : Bool := true
  keys : List (Int × KeyPlace) := []
  done : Bool := false

namespace Lexer

/-- The longest key on one line. -/
def keyLimit : Nat := 1024

def position (l : Lexer) : Position := l.cursor.position

def column (l : Lexer) : Int := l.cursor.position.column

/-- Adds a token without characters. -/
def mark (l : Lexer) (lexeme : Lexeme) : Lexer :=
  { l with tokens := ⟨lexeme, l.position, l.position⟩ :: l.tokens }

/-- Adds a token that ends where the given cursor is, and goes on there. -/
def push (l : Lexer) (lexeme : Lexeme) (behind : Cursor) : Lexer :=
  { l with tokens := ⟨lexeme, l.position, behind.position⟩ :: l.tokens, cursor := behind }

/-- Adds a token of some characters. -/
def take (l : Lexer) (lexeme : Lexeme) (length : Nat) : Lexer :=
  l.push lexeme (l.cursor.skip length)

/-- Puts a token without characters behind the given number of tokens. -/
def insert (l : Lexer) (number : Nat) (lexeme : Lexeme) (place : Position) : Lexer :=
  { l with tokens := l.tokens.insertIdx (l.tokens.length - number) ⟨lexeme, place, place⟩ }

/-- Ends the blocks that stand further in than the column. -/
def unwind (l : Lexer) (column : Int) : List Int → Lexer
  | [] => l
  | outer :: rest =>
    if column < l.indent then
      ({ l.mark .blockEnd with indent := outer, outer := rest }).unwind column rest
    else l

/-- Ends the blocks that stand further in than the column, which matters outside brackets only. -/
def endBlocks (l : Lexer) (column : Int) : Lexer :=
  if l.depth = 0 then l.unwind column l.outer else l

def opensBlock (l : Lexer) (column : Int) : Bool := l.indent < column

def openBlock (l : Lexer) (column : Int) : Lexer :=
  { l with indent := column, outer := l.indent :: l.outer }

def key? (l : Lexer) : Option KeyPlace := l.keys.lookup l.depth

/-- Drops the place of a key between the brackets that are open. -/
def withoutKey (l : Lexer) : Lexer := { l with keys := l.keys.filter fun k => k.1 ≠ l.depth }

/-- Gives up the place of a key; one that has to be a key is missed. -/
def dropKey (l : Lexer) : Except ReadError Lexer :=
  match l.key? with
  | some place => if place.required then failAt l.position else .ok l.withoutKey
  | none => .ok l

/-- Keeps the place of the next token as one where a key may begin. -/
def keepKey (l : Lexer) : Except ReadError Lexer :=
  if l.keyAllowed then do
    let required := l.depth = 0 && l.indent = l.column
    let l ← l.dropKey
    .ok { l with keys :=
      (l.depth, ⟨l.tokens.length, required, l.cursor.index, l.position⟩) :: l.keys }
  else .ok l

/-- Whether a key that begins at the place cannot end any more. -/
def isPast (l : Lexer) (place : KeyPlace) : Bool :=
  place.position.line ≠ l.position.line || l.cursor.index - place.index > keyLimit

/-- Gives up the places of keys that are past. -/
def dropPast (l : Lexer) : Except ReadError Lexer :=
  if l.keys.any fun k => l.isPast k.2 && k.2.required then failAt l.position
  else .ok { l with keys := l.keys.filter fun k => !l.isPast k.2 }

/-- Goes to the next token, over spaces, comments and the ends of lines. -/
def toToken : Nat → Lexer → Lexer
  | 0, l => l
  | fuel + 1, l =>
    let c := (l.cursor.skipWhile isSpace).skipComment
    if c.seesAny isBreak then
      toToken fuel { l with cursor := c.next, keyAllowed := l.keyAllowed || l.depth = 0 }
    else { l with cursor := c }

def atEnd (l : Lexer) : Except ReadError Lexer := do
  let l ← (l.endBlocks (-1)).dropKey
  .ok { l.mark .streamEnd with keyAllowed := false, keys := [], done := true }

def directive (l : Lexer) : Except ReadError Lexer := do
  let l ← (l.endBlocks (-1)).dropKey
  let (lexeme, behind) ← directiveLine l.cursor
  .ok { l.push lexeme behind with keyAllowed := false }

/-- A mark between documents. -/
def separator (l : Lexer) (lexeme : Lexeme) : Except ReadError Lexer := do
  let l ← (l.endBlocks (-1)).dropKey
  .ok { l.take lexeme 3 with keyAllowed := false }

def openFlow (l : Lexer) (lexeme : Lexeme) : Except ReadError Lexer := do
  let l ← l.keepKey
  .ok { l.take lexeme 1 with depth := l.depth + 1, keyAllowed := true }

def closeFlow (l : Lexer) (lexeme : Lexeme) : Except ReadError Lexer := do
  let l ← l.dropKey
  .ok { l.take lexeme 1 with depth := l.depth - 1, keyAllowed := false }

/-- A comma between brackets. -/
def comma (l : Lexer) : Except ReadError Lexer := do
  let l ← l.dropKey
  .ok { l.take .comma 1 with keyAllowed := true }

/-- The mark before an entry of a block or before a key, with which a block may begin. -/
def leader (l : Lexer) (lexeme block : Lexeme) (keyAllowed : Bool) : Except ReadError Lexer := do
  if l.depth = 0 && !l.keyAllowed then failAt l.position
  else
    let l := if l.depth = 0 && l.opensBlock l.column then
        (l.mark block).openBlock l.column
      else l
    let l ← l.dropKey
    .ok { l.take lexeme 1 with keyAllowed := keyAllowed }

/-- The mark behind a key, which may have begun before. -/
def value (l : Lexer) : Except ReadError Lexer :=
  match l.key? with
  | some place =>
    let l := l.withoutKey.insert place.number .key place.position
    let column : Int := place.position.column
    let l := if l.depth = 0 && l.opensBlock column then
        (l.insert place.number .blockMapping place.position).openBlock column
      else l
    .ok { l.take .value 1 with keyAllowed := false }
  | none => l.leader .value .blockMapping (l.depth = 0)

/-- A token that may be a key or stand before one, read where the lexer is. -/
def mayBeKey (l : Lexer) (read : Cursor → Except ReadError (Lexeme × Cursor)) :
    Except ReadError Lexer := do
  let l ← l.keepKey
  let (lexeme, behind) ← read l.cursor
  .ok { l.push lexeme behind with keyAllowed := false }

/-- A plain scalar, behind which a key may begin when a line ends there. -/
def plain (l : Lexer) (flow : Bool) : Except ReadError Lexer := do
  let l ← l.keepKey
  let (text, ended, behind) := plainScalar flow l.indent l.cursor
  .ok { l.push (.scalar text true) behind with keyAllowed := ended }

def block (l : Lexer) : Except ReadError Lexer := do
  let l ← l.dropKey
  let (text, behind) ← blockScalar l.indent l.cursor
  .ok { l.push (.scalar text false) behind with keyAllowed := true }

def beginsPlain (flow : Bool) (c : Char) (next : Option Char) : Bool :=
  let reserved := ['-', '?', ':', ',', '[', ']', '\x7b', '\x7d', '#', '&', '*', '!', '|', '>', '\'',
    '"', '%', '@', '\x60']
  !(endsWord (some c) || reserved.contains c)
    || (!endsWord next && (c = '-' || (!flow && (c = '?' || c = ':'))))

/-- The token that begins with the character. -/
def token (l : Lexer) (ch : Char) : Except ReadError Lexer := do
  let c := l.cursor
  let flow := l.depth ≠ 0
  let wordEnds := endsWord (c.peekAt 1)
  if l.column = 0 && ch = '%' then l.directive
  else if l.column = 0 && c.seesMark '-' then l.separator .documentStart
  else if l.column = 0 && c.seesMark '.' then l.separator .documentEnd
  else if ch = '[' then l.openFlow .openBracket
  else if ch = '\x7b' then l.openFlow .openBrace
  else if ch = ']' then l.closeFlow .closeBracket
  else if ch = '\x7d' then l.closeFlow .closeBrace
  else if ch = ',' then l.comma
  else if ch = '-' && wordEnds then l.leader .entry .blockSequence true
  else if ch = '?' && (flow || wordEnds) then l.leader .key .blockMapping (!flow)
  else if ch = ':' && (flow || wordEnds) then l.value
  else if ch = '*' then l.mayBeKey fun c => (anchorName c).map (Prod.map .alias id)
  else if ch = '&' then l.mayBeKey fun c => (anchorName c).map (Prod.map .anchor id)
  else if ch = '!' then l.mayBeKey fun c => (tagParts c).map (Prod.map (fun t => .tag t.1 t.2) id)
  else if (ch = '|' || ch = '>') && !flow then l.block
  else if ch = '\'' || ch = '"' then
    l.mayBeKey fun c => (quotedScalar ch c).map (Prod.map (.scalar · false) id)
  else if beginsPlain flow ch (c.peekAt 1) then l.plain flow
  else failAt l.position

/-- Adds the next token. -/
def step (l : Lexer) : Except ReadError Lexer := do
  let l ← (toToken (l.cursor.rest.length + 1) l).dropPast
  let l := l.endBlocks l.column
  let l ← match l.cursor.peek with
    | none => l.atEnd
    | some ch => l.token ch
  l.dropPast

/-- The tokens that are certain: those before every place at which a key may begin. -/
def certain (l : Lexer) : List Token :=
  let count := (l.keys.map fun k => k.2.number).foldl Nat.min l.tokens.length
  l.tokens.reverse.take count

/-- The tokens up to the end of the text, or the certain ones before something is wrong. -/
def run : Nat → Lexer → List Token × Option ReadError
  | 0, l => (l.tokens.reverse, none)
  | fuel + 1, l =>
    if l.done then (l.tokens.reverse, none)
    else match l.step with
      | .ok next => run fuel next
      | .error e => (l.certain, some e)

end Lexer

/-- The tokens of a text, and why it cannot be read on behind them, if that is so. -/
def tokens (text : List Char) : List Token × Option ReadError :=
  Lexer.run (text.length + 2) { cursor := { rest := text } }

end WorkflowRepair.Yaml
