import Playback.Build
import Playback.Exchange
import Playback.Json.Value
import Playback.StepKind
import Playback.Table

namespace Playback

structure Step where
  id : String
  number : Nat
  kind : StepKind
  description : String
  startedAt : Instant
  completedAt : Option Instant
  request : Option Request
  reply : Option Reply
  edit : Option Edit
  build : Option Build
  contextFiles : List String
  prompt : Option String
  error : Option String
  metadata : Table Json
deriving DecidableEq

namespace Step

/-- A fresh identifier is made from a token that no other one has. -/
def freshId (token : String) : String := "step_" ++ token

/-- A step without any payload. -/
def bare (now : Instant) (id : String) (number : Nat) (kind : StepKind) : Step where
  id := id
  number := number
  kind := kind
  description := ""
  startedAt := now
  completedAt := none
  request := none
  reply := none
  edit := none
  build := none
  contextFiles := []
  prompt := none
  error := none
  metadata := .empty

/-- Whether replaying the step changes files. -/
def isDestructive (step : Step) : Bool :=
  match step.kind with
  | .fileDiff | .fileWrite | .fileRemove | .fileMove => true
  | .buildComplete => step.build.any fun build => build.succeeded
  | _ => false

def isModelExchange (step : Step) : Bool :=
  match step.kind with
  | .modelRequest | .modelResponse => true
  | _ => false

/-- The nanoseconds that the step took. A step that never ended took none. -/
def duration (step : Step) : Nat :=
  ((step.completedAt.bind fun finish => step.startedAt.elapsed? finish)).getD 0

/-- The file that the step touches. The edit is asked before the build. -/
def path? (step : Step) : Option String :=
  (step.edit.map Edit.path).or (step.build.map Build.path)

end Step

end Playback
