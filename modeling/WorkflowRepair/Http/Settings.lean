import WorkflowRepair.Generation

/-!
The settings of a service: what it calls itself, which rules it holds workflows to, and how it
repairs and generates them.
-/

namespace WorkflowRepair.Http

/-- The settings of a service. -/
structure Settings where
  name : String := "FlowHeal"
  version : String := "0.1.0"
  environment : String := "test"
  profile : Profile := .generated
  addTerminals : Bool := false
  renameFields : Bool := false
  matching : FuzzyPolicy := {}
  generation : GenerationPolicy := {}

namespace Settings

def fixer (s : Settings) (profile : Profile) : Fixer :=
  ⟨{ profile := profile }, s.matching⟩

/-- The repairs that are made where a request asks for nothing else. -/
def fixOptions (s : Settings) : FixOptions :=
  { addTerminals := s.addTerminals, renameFields := s.renameFields }

def generator (s : Settings) (completion : Nat → Completion.Answer) : Generator :=
  ⟨{ fixer := s.fixer s.profile, options := s.fixOptions }, s.generation, completion⟩

end Settings

end WorkflowRepair.Http
