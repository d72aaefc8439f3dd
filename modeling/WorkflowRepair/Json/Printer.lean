import WorkflowRepair.Json
import WorkflowRepair.Text.Quoted

/-!
The text of a document: members in order, `, ` and `: ` between parts, and in strings only the
quote, the backslash and the control characters escaped. So the text of any document is a single
line.
-/

namespace WorkflowRepair.Json

/-- One character of a string in a text. -/
def escapedChar (c : Char) : List Char :=
  if c = '"' then ['\\', '"']
  else if c = '\\' then ['\\', '\\']
  else if c = '\n' then ['\\', 'n']
  else if c = '\r' then ['\\', 'r']
  else if c = '\t' then ['\\', 't']
  else if c = '\x08' then ['\\', 'b']
  else if c = '\x0c' then ['\\', 'f']
  else if c.toNat < 0x20 then '\\' :: 'u' :: Text.hexPadded 4 c.toNat
  else [c]

def renderString (s : String) : List Char :=
  '"' :: s.toList.flatMap escapedChar ++ ['"']

mutual

def renderChars : Json → List Char
  | .null => ['n', 'u', 'l', 'l']
  | .bool true => ['t', 'r', 'u', 'e']
  | .bool false => ['f', 'a', 'l', 's', 'e']
  | .num n => n.render.toList
  | .str s => renderString s
  | .arr [] => ['[', ']']
  | .arr (item :: rest) => '[' :: renderChars item ++ renderItems rest ++ [']']
  | .obj [] => ['\x7b', '\x7d']
  | .obj ((key, value) :: rest) =>
    '\x7b' :: renderString key ++ (':' :: ' ' :: renderChars value) ++ renderMembers rest
      ++ ['\x7d']

/-- The items after the first, each behind its separator. -/
def renderItems : List Json → List Char
  | [] => []
  | item :: rest => ',' :: ' ' :: renderChars item ++ renderItems rest

/-- The members after the first, each behind its separator. -/
def renderMembers : List (String × Json) → List Char
  | [] => []
  | (key, value) :: rest =>
    ',' :: ' ' :: renderString key ++ (':' :: ' ' :: renderChars value) ++ renderMembers rest

end

def render (j : Json) : String := String.ofList (renderChars j)

end WorkflowRepair.Json
