import WorkflowRepair.Validation.Issue
import WorkflowRepair.Validation.Rule

/-!
The catalog of hard errors: for every code its profile, its message, a smallest workflow that shows
it, and a hint. A catalog is read from a mapping, and the first fault of the mapping decides the
error: the version, the list of entries, then the entries in order.
-/

namespace WorkflowRepair

/-- An entry of the catalog. -/
structure CatalogEntry where
  code : String
  profile : Profile
  message : String
  repro : Members
  hint : Option String := none
deriving DecidableEq, Repr

/-- A catalog of hard errors. -/
structure Catalog where
  version : String
  entries : List CatalogEntry
deriving DecidableEq, Repr

/-- Why something is no catalog. -/
inductive CatalogError where
  | unreadable
  | unprintable
  | malformed (line column : Nat)
  | notMapping
  | noVersion
  | noEntries
  | entryNotMapping (place : Nat)
  | noCode (place : Nat)
  | duplicateCode (code : String)
  | noMessage (code : String)
  | noRepro (code : String)
  | unknownProfile (code : String)
deriving DecidableEq, Repr

def CatalogError.message : CatalogError → String
  | .unreadable => "read failed"
  | .unprintable => "yaml parse error"
  | .malformed line column => "yaml parse error:" ++ toString line ++ ":" ++ toString column
  | .notMapping => "top-level must be a mapping"
  | .noVersion => "version must be a non-empty string"
  | .noEntries => "hard_errors must be a non-empty list"
  | .entryNotMapping place => "hard_errors[" ++ toString place ++ "] must be a mapping"
  | .noCode place => "hard_errors[" ++ toString place ++ "].code is required"
  | .duplicateCode code => "duplicate code: " ++ code
  | .noMessage code => code ++ ": message is required"
  | .noRepro code => code ++ ": minimal_repro.nodes is required"
  | .unknownProfile code => code ++ ": unknown profile"

namespace CatalogEntry

/-- The text under a key, when it is one and not empty. -/
def text? (members : Members) (key : String) : Option String :=
  (Members.getD members key).str?.filter (· ≠ "")

/-- The profile of an entry; the structural one where none is given. -/
def profile? (members : Members) : Option Profile :=
  match Members.get? members "profile" with
  | none => some .structural
  | some value => value.str?.bind Profile.ofName?

/-- The smallest workflow of an entry, which has to give its nodes. -/
def repro? (members : Members) : Option Members :=
  ((Members.getD members "minimal_repro").obj?).filter (Members.has · "nodes")

/-- The entry written at a place of the list, after entries with the given codes. -/
def ofJson (place : Nat) (seen : List String) (raw : Json) : Except CatalogError CatalogEntry :=
  match raw with
  | .obj members =>
    match text? members "code" with
    | none => .error (.noCode place)
    | some code =>
      if seen.contains code then .error (.duplicateCode code)
      else match text? members "message", repro? members, profile? members with
        | none, _, _ => .error (.noMessage code)
        | _, none, _ => .error (.noRepro code)
        | _, _, none => .error (.unknownProfile code)
        | some message, some repro, some profile =>
          .ok ⟨code, profile, message, repro, (Members.getD members "hint").str?⟩
  | _ => .error (.entryNotMapping place)

end CatalogEntry

namespace Catalog

/-- The entries of a list from a place on, after entries with the given codes. -/
def entriesFrom (place : Nat) (seen : List String) :
    List Json → Except CatalogError (List CatalogEntry)
  | [] => .ok []
  | raw :: rest =>
    match CatalogEntry.ofJson place seen raw with
    | .error e => .error e
    | .ok entry =>
      match entriesFrom (place + 1) (entry.code :: seen) rest with
      | .error e => .error e
      | .ok more => .ok (entry :: more)

def ofMapping (data : Members) : Except CatalogError Catalog :=
  match CatalogEntry.text? data "version" with
  | none => .error .noVersion
  | some version =>
    match Members.getD data "hard_errors" with
    | .arr (first :: rest) =>
      match entriesFrom 0 [] (first :: rest) with
      | .error e => .error e
      | .ok entries => .ok ⟨version, entries⟩
    | _ => .error .noEntries

def entry? (catalog : Catalog) (code : String) : Option CatalogEntry :=
  catalog.entries.find? fun e => e.code = code

def codes (catalog : Catalog) : List String := catalog.entries.map CatalogEntry.code

/-- The codes that belong to a profile, in order. -/
def codesFor (catalog : Catalog) (profile : Profile) : List String :=
  (catalog.entries.filter fun e => profile.includes e.profile).map CatalogEntry.code

/-- The message for a code; a code without entry is its own message. -/
def messageFor (catalog : Catalog) (code : String) : String :=
  ((catalog.entry? code).map CatalogEntry.message).getD code

/-- The issue with the code at a place: empty ids are none, and the catalog's hint fills in. -/
def issue (catalog : Catalog) (code : String) (location : Location) : Issue :=
  { code := code
    message := catalog.messageFor code
    location :=
      { nodeId := location.nodeId.filter (· ≠ "")
        edgeId := location.edgeId.filter (· ≠ "")
        fieldPath := location.fieldPath
        hint := location.hint <|> (catalog.entry? code).bind CatalogEntry.hint } }

end Catalog

end WorkflowRepair
