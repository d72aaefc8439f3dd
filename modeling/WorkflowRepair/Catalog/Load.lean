import WorkflowRepair.Catalog
import WorkflowRepair.Yaml

/-!
Catalogs from files. A file is its text, or nothing when there is no such file; its text is read as
YAML and has to write a mapping.
-/

namespace WorkflowRepair.Catalog

/-- Why a file gives no catalog: what it writes is none, or one of its scalars has no value. -/
inductive LoadError where
  | noCatalog (error : CatalogError)
  | badValue (error : Yaml.ValueError)
deriving DecidableEq, Repr

def LoadError.ofRead : Yaml.ReadError → LoadError
  | .unprintable => .noCatalog .unprintable
  | .malformed place => .noCatalog (.malformed (place.line + 1) (place.column + 1))
  | .badValue error => .badValue error

def load (file : Option String) : Except LoadError Catalog :=
  match file with
  | none => .error (.noCatalog .unreadable)
  | some text =>
    match Yaml.read text with
    | .error e => .error (.ofRead e)
    | .ok (.obj members) => (ofMapping members).mapError .noCatalog
    | .ok _ => .error (.noCatalog .notMapping)

end WorkflowRepair.Catalog
