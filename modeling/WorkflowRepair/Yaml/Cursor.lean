/-!
Places in a text. A cursor is what is left of a text together with where that begins; lines and
columns count from zero, and a byte-order mark takes no column.
-/

namespace WorkflowRepair.Yaml

/-- A place in a text. -/
structure Position where
  line : Nat := 0
  column : Nat := 0
deriving DecidableEq, Repr, Inhabited

/-- What is left of a text, where it begins, and how many characters came before. -/
structure Cursor where
  rest : List Char
  position : Position := {}
  index : Nat := 0
deriving DecidableEq, Repr, Inhabited

/-- Whether the character ends a line. -/
def isBreak (c : Char) : Bool := c = '\n' || c = '\x85' || c = '\u2028' || c = '\u2029'

/-- The character that stands for the end of a line in a scalar. -/
def breakOf (c : Char) : Char := if c = '\u2028' || c = '\u2029' then c else '\n'

def isSpace (c : Char) : Bool := c = ' '

/-- Whether the character is a space or a tab. -/
def isIndent (c : Char) : Bool := c = ' ' || c = '\t'

def endsLine (next : Option Char) : Bool := next.all isBreak

/-- Whether a space, the line or the text ends a word here. -/
def endsWord (next : Option Char) : Bool := next.all fun c => isIndent c || isBreak c

namespace Position

/-- The place behind a character. -/
def after (p : Position) (c : Char) : Position :=
  if isBreak c then ⟨p.line + 1, 0⟩
  else if c = '\ufeff' then p
  else ⟨p.line, p.column + 1⟩

end Position

namespace Cursor

/-- The next character. -/
def peek (c : Cursor) : Option Char := c.rest.head?

/-- The character a few characters further on. -/
def peekAt (c : Cursor) (n : Nat) : Option Char := c.rest[n]?

/-- Whether the next character is the given one. -/
def sees (c : Cursor) (ch : Char) : Bool := c.peek == some ch

/-- Whether the next character is one of some kind. -/
def seesAny (c : Cursor) (p : Char → Bool) : Bool := c.peek.any p

def next (c : Cursor) : Cursor :=
  match c.rest with
  | [] => c
  | ch :: rest => ⟨rest, c.position.after ch, c.index + 1⟩

/-- The cursor behind some characters. -/
def skip (c : Cursor) : Nat → Cursor
  | 0 => c
  | n + 1 => c.next.skip n

/-- The longest run of characters of some kind, and the cursor behind it. -/
def span (c : Cursor) (p : Char → Bool) : List Char × Cursor :=
  let run := c.rest.takeWhile p
  (run, c.skip run.length)

/-- The cursor behind the longest run of characters of some kind. -/
def skipWhile (c : Cursor) (p : Char → Bool) : Cursor := (c.span p).2

/-- The cursor behind the rest of a comment, if there is one. -/
def skipComment (c : Cursor) : Cursor :=
  if c.sees '#' then c.skipWhile fun ch => !isBreak ch else c

/-- The cursor behind the end of a line, if the line ends here. -/
def skipBreak (c : Cursor) : Cursor := if c.seesAny isBreak then c.next else c

/-- Whether three of the given characters and the end of a word come next. -/
def seesMark (c : Cursor) (ch : Char) : Bool :=
  c.rest.take 3 == [ch, ch, ch] && endsWord (c.peekAt 3)

/-- Whether a mark between documents comes next. -/
def seesSeparator (c : Cursor) : Bool := c.seesMark '-' || c.seesMark '.'

end Cursor

end WorkflowRepair.Yaml
