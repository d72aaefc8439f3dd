import WorkflowRepair.Yaml.ReadError

/-!
The scalars of a text: quoted ones, blocks of lines, and plain ones. The end of a line inside a
scalar is folded into a space, unless empty lines follow it; only literal blocks keep their lines.
-/

namespace WorkflowRepair.Yaml

/-- The rest of a line that may hold nothing but a comment. -/
def skipLineEnd (c : Cursor) : Except ReadError Cursor :=
  let c := (c.skipWhile isSpace).skipComment
  if endsLine c.peek then .ok c.skipBreak else failAt c.position

/-- The end of a line, folded with the empty lines behind it. -/
def folded (first : Char) (breaks : List Char) : List Char :=
  if first ≠ '\n' then first :: breaks
  else if breaks.isEmpty then [' ']
  else breaks

/-! ### Quoted scalars -/

/-- The empty lines and the indentation before the next line of a quoted scalar. -/
def quotedBreaks : Nat → Cursor → Except ReadError (List Char × Cursor)
  | 0, c => .ok ([], c)
  | fuel + 1, c =>
    if c.seesSeparator then failAt c.position
    else
      let c := c.skipWhile isIndent
      match c.peek with
      | some ch =>
        if isBreak ch then do
          let (more, d) ← quotedBreaks fuel c.next
          .ok (breakOf ch :: more, d)
        else .ok ([], c)
      | none => .ok ([], c)

/-- The spaces inside a quoted scalar, with the ends of lines among them. -/
def quotedSpaces (c : Cursor) : Except ReadError (List Char × Cursor) :=
  let (spaces, d) := c.span isIndent
  match d.peek with
  | none => failAt d.position
  | some ch =>
    if isBreak ch then do
      let (breaks, e) ← quotedBreaks d.rest.length d.next
      .ok (folded (breakOf ch) breaks, e)
    else .ok (spaces, d)

/-- The character that is written by one letter behind a backslash. -/
def escape? (c : Char) : Option Char :=
  [('0', '\x00'), ('a', '\x07'), ('b', '\x08'), ('t', '\t'), ('\t', '\t'), ('n', '\n'),
    ('v', '\x0b'), ('f', '\x0c'), ('r', '\r'), ('e', '\x1b'), (' ', ' '), ('"', '"'),
    ('\\', '\\'), ('/', '/'), ('N', '\x85'), ('_', '\u00a0'), ('L', '\u2028'),
    ('P', '\u2029')].lookup c

/-- How many digits give the code point behind a letter. -/
def escapeDigits? (c : Char) : Option Nat := [('x', 2), ('u', 4), ('U', 8)].lookup c

/-- The value of a digit to base sixteen. -/
def hexValue? (c : Char) : Option Nat :=
  if '0' ≤ c && c ≤ '9' then some (c.toNat - '0'.toNat)
  else if 'a' ≤ c && c ≤ 'f' then some (c.toNat - 'a'.toNat + 10)
  else if 'A' ≤ c && c ≤ 'F' then some (c.toNat - 'A'.toNat + 10)
  else none

def hexNumber? (digits : List Char) : Option Nat :=
  digits.foldl (fun acc c => acc.bind fun n => (hexValue? c).map (n * 16 + ·)) (some 0)

/-- The character of a code, which may be too large for one. -/
def codeChar (n : Nat) : Except ReadError Char :=
  if n > 0x7FFFFFFF then failWith .codeTooLarge
  else if n > 0x10FFFF then failWith .noCharacter
  else .ok (Text.charOf n)

/-- What stands behind a backslash. -/
def quotedEscape (c : Cursor) : Except ReadError (List Char × Cursor) :=
  match c.peek with
  | none => failAt c.position
  | some ch =>
    match escape? ch, escapeDigits? ch with
    | some value, _ => .ok ([value], c.next)
    | none, some count =>
      let digits := c.next.rest.take count
      match hexNumber? digits with
      | some n => do
        if digits.length < count then failAt c.next.position
        else .ok ([← codeChar n], c.next.skip count)
      | none => failAt c.next.position
    | none, none => if isBreak ch then quotedBreaks c.rest.length c.next else failAt c.position

def quotedRest (quote : Char) : Nat → Cursor → Except ReadError (List Char × Cursor)
  | 0, c => failAt c.position
  | fuel + 1, c =>
    match c.peek with
    | none => failAt c.position
    | some ch =>
      if ch = quote then
        if quote = '\'' && c.peekAt 1 == some quote then do
          let (more, d) ← quotedRest quote fuel (c.skip 2)
          .ok (quote :: more, d)
        else .ok ([], c.next)
      else do
        let (piece, d) ←
          if isIndent ch || isBreak ch then quotedSpaces c
          else if ch = '\\' && quote = '"' then quotedEscape c.next
          else .ok ([ch], c.next)
        let (more, e) ← quotedRest quote fuel d
        .ok (piece ++ more, e)

def quotedScalar (quote : Char) (c : Cursor) : Except ReadError (String × Cursor) := do
  let (text, d) ← quotedRest quote c.rest.length c.next
  .ok (String.ofList text, d)

/-! ### Blocks of lines -/

/-- What is done with the last end of a line of a block and the empty lines behind it. -/
inductive Chomping where
  | strip
  | clip
  | keep
deriving DecidableEq, Repr

/-- The head of a block: its chomping and how far it is indented. -/
structure BlockHead where
  chomping : Chomping := .clip
  indent : Option Nat := none
deriving DecidableEq, Repr

/-- The chomping that a character asks for. -/
def chomping? (c : Option Char) : Option Chomping :=
  if c == some '+' then some .keep else if c == some '-' then some .strip else none

/-- The indentation that a digit asks for; zero is none. -/
def blockIndent? (c : Cursor) : Except ReadError (Option Nat) :=
  match c.peek with
  | some ch =>
    if ch = '0' then failAt c.position
    else if ch.isDigit then .ok (some (ch.toNat - '0'.toNat))
    else .ok none
  | none => .ok none

/-- The head of a block behind its first character. -/
def blockHead (c : Cursor) : Except ReadError (BlockHead × Cursor) := do
  let (head, d) ←
    match chomping? c.peek with
    | some chomping =>
      match ← blockIndent? c.next with
      | some n => .ok ({ chomping := chomping, indent := some n : BlockHead }, c.skip 2)
      | none => .ok ({ chomping := chomping }, c.next)
    | none =>
      match ← blockIndent? c with
      | some n =>
        match chomping? (c.peekAt 1) with
        | some chomping => .ok ({ chomping := chomping, indent := some n : BlockHead }, c.skip 2)
        | none => .ok ({ indent := some n : BlockHead }, c.next)
      | none => .ok ({ : BlockHead }, c)
  if d.sees ' ' || endsLine d.peek then
    let e ← skipLineEnd d
    .ok (head, e)
  else failAt d.position

/-- The empty lines before a block, and the widest indentation among them and the first line. -/
def leadingBreaks : Nat → Cursor → Nat → List Char × Nat × Cursor
  | 0, c, widest => ([], widest, c)
  | fuel + 1, c, widest =>
    match c.peek with
    | some ch =>
      if isSpace ch then leadingBreaks fuel c.next (Nat.max widest c.next.position.column)
      else if isBreak ch then
        let (more, width, d) := leadingBreaks fuel c.next widest
        (breakOf ch :: more, width, d)
      else ([], widest, c)
    | none => ([], widest, c)

/-- The indentation of a line, up to the column of the block. -/
def skipIndent (column : Nat) (c : Cursor) : Cursor :=
  c.skip ((c.rest.take (column - c.position.column)).takeWhile isSpace).length

/-- The empty lines between two lines of a block. -/
def blockBreaks (column : Nat) : Nat → Cursor → List Char × Cursor
  | 0, c => ([], c)
  | fuel + 1, c =>
    let c := skipIndent column c
    match c.peek with
    | some ch =>
      if isBreak ch then
        let (more, d) := blockBreaks column fuel c.next
        (breakOf ch :: more, d)
      else ([], c)
    | none => ([], c)

def goesOn (column : Nat) (c : Cursor) : Bool := c.position.column = column && c.peek.isSome

/-- What joins two lines of a block. -/
def joint (fold : Bool) (spaced nextSpaced : Bool) (ending : List Char) (breaks : List Char) :
    List Char :=
  if fold && ending == ['\n'] && !spaced && !nextSpaced then
    if breaks.isEmpty then [' '] else breaks
  else ending ++ breaks

/-- The lines of a block: their text, the end of the last line and the empty lines behind it. -/
def blockLines (fold : Bool) (column : Nat) :
    Nat → Cursor → List Char × List Char × List Char × Cursor
  | 0, c => ([], [], [], c)
  | fuel + 1, c =>
    let (line, d) := c.span fun ch => !isBreak ch
    let ending := (d.peek.map breakOf).toList
    let (breaks, e) := blockBreaks column d.rest.length d.skipBreak
    if goesOn column e then
      let (text, last, empty, f) := blockLines fold column fuel e
      (line ++ joint fold (c.seesAny isIndent) (e.seesAny isIndent) ending breaks ++ text,
        last, empty, f)
    else (line, ending, breaks, e)

def blockScalar (outer : Int) (c : Cursor) : Except ReadError (String × Cursor) := do
  let (head, d) ← blockHead c.next
  let least := (if outer + 1 < 1 then 1 else outer + 1).toNat
  let (breaks, column, e) :=
    match head.indent with
    | some n =>
      let column := least + n - 1
      let (breaks, e) := blockBreaks column (d.rest.length + 1) d
      (breaks, column, e)
    | none =>
      let (breaks, widest, e) := leadingBreaks d.rest.length d 0
      (breaks, Nat.max least widest, e)
  let (text, last, empty, f) :=
    if goesOn column e then
      let (text, last, empty, f) := blockLines (c.sees '>') column e.rest.length e
      (breaks ++ text, last, empty, f)
    else ([], [], breaks, e)
  let ending := match head.chomping with
    | .strip => []
    | .clip => last
    | .keep => last ++ empty
  .ok (String.ofList (text ++ ending), f)

/-! ### Plain scalars -/

/-- The characters that end a plain scalar inside brackets. -/
def isFlowMark (c : Char) : Bool := [',', '?', '[', ']', '\x7b', '\x7d'].contains c

def colonEnds (flow : Bool) (next : Option Char) : Bool :=
  endsWord next || (flow && next.any fun c => isFlowMark c && c ≠ '?')

def plainWord (flow : Bool) : List Char → List Char
  | [] => []
  | c :: rest =>
    if endsWord (some c) || (c = ':' && colonEnds flow rest.head?) || (flow && isFlowMark c) then []
    else c :: plainWord flow rest

/-- The empty lines and the indentation before the next line of a plain scalar; nothing before a
mark between documents. -/
def plainBreaks : Nat → Cursor → Option (List Char) × Cursor
  | 0, c => (some [], c)
  | fuel + 1, c =>
    match c.peek with
    | some ch =>
      if isSpace ch then plainBreaks fuel c.next
      else if isBreak ch then
        if c.next.seesSeparator then (none, c.next)
        else
          let (more, d) := plainBreaks fuel c.next
          (more.map (breakOf ch :: ·), d)
      else (some [], c)
    | none => (some [], c)

/-- What stands between two words of a plain scalar, and whether a line ends there. -/
def plainSpaces (c : Cursor) : List Char × Bool × Cursor :=
  let (spaces, d) := c.span isSpace
  match d.peek with
  | some ch =>
    if isBreak ch then
      if d.next.seesSeparator then ([], true, d.next)
      else
        let (breaks, e) := plainBreaks d.rest.length d.next
        ((breaks.map (folded (breakOf ch))).getD [], true, e)
    else (spaces, false, d)
  | none => (spaces, false, d)

/-- The words of a plain scalar from a word on, with what stands before them; and whether a line
ends behind the last one. -/
def plainWords (flow : Bool) (column : Nat) :
    Nat → Bool → List Char → Cursor → List Char × Bool × Cursor
  | 0, ended, _, c => ([], ended, c)
  | fuel + 1, ended, before, c =>
    let word := plainWord flow c.rest
    if c.sees '#' || word.isEmpty then ([], ended, c)
    else
      let (spaces, lineEnds, d) := plainSpaces (c.skip word.length)
      if spaces.isEmpty || d.sees '#' || (!flow && d.position.column < column) then
        (before ++ word, lineEnds, d)
      else
        let (more, ended, e) := plainWords flow column fuel lineEnds spaces d
        (before ++ word ++ more, ended, e)

/-- A plain scalar inside a block that is indented as given, and whether a line ends behind it. -/
def plainScalar (flow : Bool) (outer : Int) (c : Cursor) : String × Bool × Cursor :=
  let (text, ended, d) := plainWords flow (outer + 1).toNat (c.rest.length + 1) false [] c
  (String.ofList text, ended, d)

end WorkflowRepair.Yaml
