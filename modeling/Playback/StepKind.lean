namespace Playback

/-- A kind that is not known keeps its name. -/
inductive StepKind where
  | modelRequest
  | modelResponse
  | fileDiff
  | fileWrite
  | fileRemove
  | fileMove
  | buildStart
  | buildComplete
  | buildError
  | contextLoad
  | contextUpdate
  | userPrompt
  | missingFilePrompt
  | error
  | other (name : String)
deriving DecidableEq

namespace StepKind

def name : StepKind → String
  | .modelRequest => "model_request"
  | .modelResponse => "model_response"
  | .fileDiff => "file_diff"
  | .fileWrite => "file_write"
  | .fileRemove => "file_remove"
  | .fileMove => "file_move"
  | .buildStart => "build_start"
  | .buildComplete => "build_complete"
  | .buildError => "build_error"
  | .contextLoad => "context_load"
  | .contextUpdate => "context_update"
  | .userPrompt => "user_prompt"
  | .missingFilePrompt => "missing_file_prompt"
  | .error => "error"
  | .other name => name

def known : List StepKind :=
  [.modelRequest, .modelResponse, .fileDiff, .fileWrite, .fileRemove, .fileMove, .buildStart,
    .buildComplete, .buildError, .contextLoad, .contextUpdate, .userPrompt, .missingFilePrompt,
    .error]

def ofName (name : String) : StepKind :=
  (known.find? fun kind => kind.name == name).getD (.other name)

def isKnown : StepKind → Bool
  | .other _ => false
  | _ => true

end StepKind

end Playback
