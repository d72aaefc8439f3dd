import WorkflowRepair.Text.Quoted

/-!
Values that cannot be used for what they are given for: a name outside a fixed set, a size of
nothing, a key that is missing.
-/

namespace WorkflowRepair

/-- Why a given value cannot be used. -/
inductive ArgumentError where
  | emptyVocabulary
  | chunkSize
  | noApiKey
  | unknownProfile (name : String)
  | unknownStatus (name : String)
  | unknownEventKind (name : String)
deriving DecidableEq, Repr

def ArgumentError.message : ArgumentError → String
  | .emptyVocabulary => "vocabulary must not be empty"
  | .chunkSize => "chunk_size must be positive"
  | .noApiKey => "OpenAI API key is required. Please set OPENAI_API_KEY in your .env file."
  | .unknownProfile name => Text.quoted name ++ " is not a valid ValidationProfile"
  | .unknownStatus name => Text.quoted name ++ " is not a valid StepStatus"
  | .unknownEventKind name => Text.quoted name ++ " is not a valid GenerationEventType"

end WorkflowRepair
