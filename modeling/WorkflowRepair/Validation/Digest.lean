import WorkflowRepair.Validation.Issue

/-!
The digest of a report: one line for each kind of issue, a kind being a code with a message, in the
order in which the kinds first appear. A line gives the number of issues and up to three places.
-/

namespace WorkflowRepair

/-- A part of a place: what is named and its name, when there is one. -/
def Location.part (what : String) (name : Option String) : List String :=
  match name with
  | some s => if s = "" then [] else [what ++ ":" ++ s]
  | none => []

/-- The place in one line, empty for the whole workflow. -/
def Location.text (place : Location) : String :=
  ", ".intercalate (part "node" place.nodeId ++ part "edge" place.edgeId
    ++ part "field" place.fieldPath)

def Issue.sort (issue : Issue) : String × String := (issue.code, issue.message)

namespace Report

/-- The kinds of issue in order of first appearance. -/
def sorts (report : Report) : List (String × String) := (report.issues.map Issue.sort).eraseDups

/-- The places of the issues of a kind. -/
def places (report : Report) (sort : String × String) : List String :=
  (report.issues.filter fun issue => issue.sort = sort).map fun issue => issue.location.text

/-- How many places a line of the digest names at most. -/
def placeLimit : Nat := 3

/-- The places that a line of the digest names. -/
def samples (report : Report) (sort : String × String) : List String :=
  (((report.places sort).filter (· ≠ "")).eraseDups).take placeLimit

def digestLine (report : Report) (sort : String × String) : String :=
  let count := (report.places sort).length
  "- " ++ sort.1 ++ " " ++ sort.2
    ++ (if count > 1 then " x" ++ toString count else "")
    ++ String.join ((report.samples sort).map fun place => " (" ++ place ++ ")")

/-- The items up to a limit; a negative limit counts from the end. -/
def upTo {α : Type} (limit : Int) (items : List α) : List α :=
  items.take (if limit < 0 then limit + items.length else limit).toNat

/-- How many kinds of issue a digest lists where nothing else is asked for. -/
def digestLimit : Int := 20

def digest (report : Report) (limit : Int) : String :=
  let total := report.sorts.length
  "[校验报告] 发现 Hard Error：" ++ toString report.count ++ " 条（共 " ++ toString total ++ " 类）\n"
    ++ "\n".intercalate ((upTo limit report.sorts).map report.digestLine)
    ++ (if limit < total then "\n- ... 还有 " ++ toString (total - limit) ++ " 类" else "")

end Report

end WorkflowRepair
