import Playback.Journal
import Playback.Step.Encoding

namespace Playback

open Json

namespace Progress

def toJson (progress : Progress) : Json := .text progress.name

def reader : Reader Progress := Reader.choice choices

end Progress

namespace Journal

def toJson (journal : Journal) : Json :=
  .object (
    [("id", .text journal.id),
      ("version", journal.edition.toJson),
      ("status", journal.progress.toJson)] ++
    given "initial_prompt" .text journal.prompt ++
    [("started_at", journal.startedAt.toJson)] ++
    given "completed_at" Instant.toJson journal.completedAt ++
    [("steps", listOf Step.toJson journal.steps),
      ("initial_file_snapshots", journal.files.toJson Snapshot.toJson)] ++
    journal.metadata.givenJson "metadata" fun value => value)

def form (now : Instant) :
    Form [String, Edition, Progress, Option String, Instant, Option Instant, List Step,
      Table Snapshot, Table Json] :=
  .field "id" .text .refused <|
  .field "version" Edition.reader (.filled .current) <|
  .field "status" Progress.reader (.filled .completed) <|
  .field "initial_prompt" (.optional .text) (.filled none) <|
  .field "started_at" Instant.reader (.filled now) <|
  .field "completed_at" (.optional Instant.reader) (.filled none) <|
  .field "steps" (.list (Step.reader now)) (.filled []) <|
  .field "initial_file_snapshots" (Table.reader (Snapshot.reader now)) (.filled .empty) <|
  .field "metadata" (Table.reader .value) (.filled .empty) <|
  .done

def reader (now : Instant) : Reader Journal :=
  ((form now).reader "struct ReplaySession").map
    fun (id, edition, progress, prompt, startedAt, completedAt, steps, files, metadata, ()) =>
      ⟨id, edition, progress, prompt, startedAt, completedAt, steps, files, metadata⟩

/-- The whole text must be one journal, but it need not pass the check. -/
def ofText (now : Instant) (text : String) : Except Fault Journal :=
  ((reader now).run text).mapError fun fault => .unreadableText fault.message

/-- The text of a saved journal. -/
def savedText (journal : Journal) : String := journal.toJson.pretty

/-- A journal is loaded only if it passes the check. -/
def load (now : Instant) (text : String) : Except Fault Journal :=
  match ofText now text with
  | .error fault => .error fault
  | .ok journal =>
      match journal.check with
      | .error fault => .error fault
      | .ok _ => .ok journal

end Journal

end Playback
