import Playback.Build.Encoding
import Playback.Exchange.Encoding
import Playback.Step

namespace Playback

open Json

namespace StepKind

def toJson (kind : StepKind) : Json := .text kind.name

/-- Every name is a kind. -/
def reader : Reader StepKind := Reader.text.map ofName

end StepKind

namespace Step

def toJson (step : Step) : Json :=
  .object (
    [("id", .text step.id),
      ("step_number", natural step.number),
      ("type", step.kind.toJson),
      ("description", .text step.description),
      ("started_at", step.startedAt.toJson)] ++
    given "completed_at" Instant.toJson step.completedAt ++
    given "model_request" Request.toJson step.request ++
    given "model_response" Reply.toJson step.reply ++
    given "file_diff" Edit.toJson step.edit ++
    given "build_info" Build.toJson step.build ++
    givenList "context_files" .text step.contextFiles ++
    given "user_prompt" .text step.prompt ++
    given "error" .text step.error ++
    step.metadata.givenJson "metadata" fun value => value)

def form (now : Instant) :
    Form [String, Nat, StepKind, String, Instant, Option Instant, Option Request, Option Reply,
      Option Edit, Option Build, List String, Option String, Option String, Table Json] :=
  .field "id" .text .refused <|
  .field "step_number" (.natural UInt64.size "usize") .refused <|
  .field "type" StepKind.reader .refused <|
  .field "description" .text (.filled "") <|
  .field "started_at" Instant.reader (.filled now) <|
  .field "completed_at" (.optional Instant.reader) (.filled none) <|
  .field "model_request" (.optional Request.reader) (.filled none) <|
  .field "model_response" (.optional Reply.reader) (.filled none) <|
  .field "file_diff" (.optional Edit.reader) (.filled none) <|
  .field "build_info" (.optional (Build.reader now)) (.filled none) <|
  .field "context_files" (.list .text) (.filled []) <|
  .field "user_prompt" (.optional .text) (.filled none) <|
  .field "error" (.optional .text) (.filled none) <|
  .field "metadata" (Table.reader .value) (.filled .empty) <|
  .done

def reader (now : Instant) : Reader Step :=
  ((form now).reader "struct ReplayStep").map
    fun (id, number, kind, description, startedAt, completedAt, request, reply, edit, build,
        contextFiles, prompt, error, metadata, ()) =>
      ⟨id, number, kind, description, startedAt, completedAt, request, reply, edit, build,
        contextFiles, prompt, error, metadata⟩

end Step

end Playback
