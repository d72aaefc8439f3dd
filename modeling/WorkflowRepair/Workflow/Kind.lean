import WorkflowRepair.Text.Blank
import WorkflowRepair.Text.Case

/-!
The seven kinds of node. A node's type text names a kind whatever its case and outer blanks, and a
reference may name a kind by further words of its own.
-/

namespace WorkflowRepair

/-- The kind of a node. -/
inductive NodeKind where
  | input
  | llm
  | rag
  | tool
  | branch
  | imagegen
  | output
deriving DecidableEq, Repr

namespace NodeKind

/-- All kinds, in the order in which they are listed to users. -/
def all : List NodeKind := [.input, .llm, .rag, .tool, .branch, .imagegen, .output]

def name : NodeKind → String
  | .input => "input"
  | .llm => "llm"
  | .rag => "rag"
  | .tool => "tool"
  | .branch => "branch"
  | .imagegen => "imagegen"
  | .output => "output"

/-- The form of a word under which kinds are looked up. -/
def key (word : String) : String := Text.lower (Text.strip word)

def ofType? (type : String) : Option NodeKind :=
  match key type with
  | "image_gen" => some .imagegen
  | "image" => some .imagegen
  | word => all.find? fun kind => kind.name = word

def ofAlias? (word : String) : Option NodeKind :=
  match key word with
  | "start" => some .input
  | "search" => some .tool
  | "end" => some .output
  | word => all.find? fun kind => kind.name = word

end NodeKind

end WorkflowRepair
