import WorkflowRepair.Json.Reader
import WorkflowRepair.Json.Writable
import WorkflowRepair.Text.Encoding
import WorkflowRepair.Validation.Rule

/-!
The bodies of requests. A body is read as a document, and the document as a form with typed
fields; what is wrong with the fields is collected in the order of the fields, so that one answer
names all of it.
-/

namespace WorkflowRepair.Http

/-- The body of a request. -/
inductive Body where
  | absent
  | text (value : String)
  | document (value : Json)

/-- What may be wrong with a body or a field of it. -/
inductive Defect where
  | noJson
  | missing
  | notObject
  | notOption
  | notText
  | notUnicode
  | tooShort
  | notBoolean
  | unknownBoolean
deriving DecidableEq, Repr

def Defect.name : Defect → String
  | .noJson => "json_invalid"
  | .missing => "missing"
  | .notObject => "model_attributes_type"
  | .notOption => "enum"
  | .notText => "string_type"
  | .notUnicode => "string_unicode"
  | .tooShort => "string_too_short"
  | .notBoolean => "bool_type"
  | .unknownBoolean => "bool_parsing"

/-- A defect with its place in the body, which is the body itself, a position in its text, or a
field, and with what was found there. -/
structure Complaint where
  defect : Defect
  place : List Json := []
  found : Json := .null
deriving DecidableEq, Repr

def Complaint.toJson (c : Complaint) : Json :=
  .obj [("type", .str c.defect.name), ("loc", .arr (.str "body" :: c.place))]

/-- Why a body is refused: it cannot be read at all, or there are complaints about it. -/
inductive Refusal where
  | unreadable
  | complaints (list : List Complaint)

def complainOf {α : Type} (defect : Defect) (field : String) (found : Json) : Except Complaint α :=
  .error ⟨defect, [.str field], found⟩

/-- The complaint about a field that was read, if there is one. -/
def complaint {α : Type} : Except Complaint α → List Complaint
  | .ok _ => []
  | .error c => [c]

namespace Body

/-- The document in a text, which is sent as bytes. -/
def readText (value : String) : Except Refusal Json :=
  match Text.reread value with
  | none => .error .unreadable
  | some cs =>
    match Json.readChars cs with
    | .ok found => .ok found
    | .error (.malformed position) =>
      .error (.complaints [⟨.noJson, [.ofInt position], .obj []⟩])
    | .error .tooManyDigits => .error .unreadable

def read (body : Body) : Except Refusal Json :=
  match body with
  | .absent => .error (.complaints [⟨.missing, [], .null⟩])
  | .text value =>
    if value = "" then .error (.complaints [⟨.missing, [], .null⟩]) else readText value
  | .document value => .ok value

/-- The members of a body, which has to be an object. -/
def members (body : Body) : Except Refusal Members :=
  match body.read with
  | .error refusal => .error refusal
  | .ok (.obj members) => .ok members
  | .ok found => .error (.complaints [⟨.notObject, [], found⟩])

end Body

namespace Field

/-- The value of a profile field; null leaves the choice to the service. -/
def profile? (members : Members) : Except Complaint (Option Profile) :=
  match Members.getD members "profile" with
  | .null => .ok none
  | .str name =>
    match Profile.ofName? name with
    | some profile => .ok (some profile)
    | none => complainOf .notOption "profile" (.str name)
  | found => complainOf .notOption "profile" found

/-- The words for true and for false, whatever their case. -/
def booleanOf? (word : String) : Option Bool :=
  if ["1", "on", "t", "true", "y", "yes"].contains word.toLower then some true
  else if ["0", "off", "f", "false", "n", "no"].contains word.toLower then some false
  else none

/-- Whether a number is whole and fits a machine word; the ends of its range are integers only. -/
def isWord (n : Number) : Bool :=
  let least : Number := .int (-(Nat.pow 2 63 : Int))
  let behind : Number := .int (Nat.pow 2 63)
  match n with
  | .int _ => least.le n && n.lt behind
  | .double _ => n.whole?.isSome && least.lt n && n.lt behind

/-- The value of a boolean field: a boolean, zero or one, or a word for one of them. -/
def boolean (field : String) (found : Json) : Except Complaint Bool :=
  match found with
  | .bool value => .ok value
  | .str word =>
    match booleanOf? word with
    | some value => .ok value
    | none => complainOf .unknownBoolean field found
  | .num n =>
    if n.same (.int 0) then .ok false
    else if n.same (.int 1) then .ok true
    else complainOf (if isWord n then .unknownBoolean else .notBoolean) field found
  | _ => complainOf .notBoolean field found

/-- The value of a field that goes by two names, of which the first is preferred, with its name. -/
def either? (members : Members) (first second : String) : Option (String × Json) :=
  (Members.get? members first).map (first, ·) <|> (Members.get? members second).map (second, ·)

/-- The value of a boolean field with two names that may be left open by null. -/
def optionalBoolean (members : Members) (first second : String) : Except Complaint (Option Bool) :=
  match either? members first second with
  | none | some (_, .null) => .ok none
  | some (name, found) => (boolean name found).map some

/-- The value of a boolean field with two names. -/
def defaultBoolean (members : Members) (first second : String) (standard : Bool) :
    Except Complaint Bool :=
  match either? members first second with
  | none => .ok standard
  | some (name, found) => boolean name found

def fullText (members : Members) (field : String) : Except Complaint String :=
  match Members.get? members field with
  | none => complainOf .missing field (.obj members)
  | some (.str value) =>
    if Text.holdsHalf value then complainOf .notUnicode field (.str value)
    else if value = "" then complainOf .tooShort field (.str value)
    else .ok value
  | some found => complainOf .notText field found

end Field

/-- A workflow as it was sent, with the profile to hold it to. -/
structure WorkflowForm where
  nodes : Json
  edges : Json
  profile : Option Profile

/-- A workflow to be repaired, with the repairs that are wanted. -/
structure FixForm where
  workflow : WorkflowForm
  onlyInvalid : Bool
  addTerminals : Option Bool
  renameFields : Option Bool

/-- The graph of a form; without nodes there are none, and without edges neither. -/
def WorkflowForm.ofMembers (members : Members) (profile : Option Profile) : WorkflowForm :=
  ⟨(Members.get? members "nodes").getD (.arr []), Members.getD members "edges", profile⟩

def WorkflowForm.read (body : Body) : Except Refusal WorkflowForm :=
  match body.members with
  | .error refusal => .error refusal
  | .ok members =>
    match Field.profile? members with
    | .error c => .error (.complaints [c])
    | .ok profile => .ok (.ofMembers members profile)

def FixForm.read (body : Body) : Except Refusal FixForm :=
  match body.members with
  | .error refusal => .error refusal
  | .ok members =>
    let profile := Field.profile? members
    let only := Field.defaultBoolean members "onlyFixWhenInvalid" "only_fix_when_invalid" true
    let add := Field.optionalBoolean members "includeInputOutput" "include_input_output"
    let rename := Field.optionalBoolean members "rewriteFieldAliases" "rewrite_field_aliases"
    match profile, only, add, rename with
    | .ok profile, .ok only, .ok add, .ok rename =>
      .ok ⟨.ofMembers members profile, only, add, rename⟩
    | _, _, _, _ =>
      .error (.complaints
        (complaint profile ++ complaint only ++ complaint add ++ complaint rename))

def readPrompt (body : Body) : Except Refusal String :=
  match body.members with
  | .error refusal => .error refusal
  | .ok members =>
    match Field.fullText members "prompt" with
    | .error c => .error (.complaints [c])
    | .ok prompt => .ok prompt

end WorkflowRepair.Http
