/-!
Names that are not in use. Of the numbered forms of a base at least one is free among one more than
there are names, so the search always ends with one.
-/

namespace WorkflowRepair.Repair

/-- The base, or the base with the separator and the least number, that is not in use. -/
def freshName (base separator : String) (used : List String) : String :=
  if used.contains base then
    let counted := (List.range (used.length + 1)).map fun k => base ++ separator ++ toString (k + 1)
    (counted.find? fun name => !used.contains name).getD base
  else base

end WorkflowRepair.Repair
