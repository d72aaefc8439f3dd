/-!
The edit distance of two texts: the least number of insertions, deletions and substitutions of
single characters. It is computed row by row; a row holds the distances of one beginning of the
first text to all beginnings of the second.
-/

namespace WorkflowRepair.Text

/-- The rest of a row: `up` holds the row above from the column to the left on, and `left` the entry
to the left. -/
def extendRow (c : Char) : (second : List Char) → (up : List Nat) → (left : Nat) → List Nat
  | d :: ds, diagonal :: above :: more, left =>
    let entry := Nat.min (Nat.min (above + 1) (left + 1)) (diagonal + if c = d then 0 else 1)
    entry :: extendRow c ds (above :: more) entry
  | _, _, _ => []

/-- The row for one more character of the first text. -/
def nextRow (second : List Char) (row : List Nat) (c : Char) : List Nat :=
  match row with
  | [] => []
  | first :: _ => (first + 1) :: extendRow c second row (first + 1)

def firstRow (second : List Char) : List Nat := List.range (second.length + 1)

def editDistance (a b : String) : Nat :=
  let second := b.toList
  (a.toList.foldl (nextRow second) (firstRow second)).getLastD 0

end WorkflowRepair.Text
