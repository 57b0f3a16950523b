import Playback.Settings.Encoding
import Playback.Snapshot.Encoding
import Playback.State

namespace Playback

open Json

namespace Divergence

def Kind.toJson (kind : Kind) : Json := .text kind.name

def Kind.reader : Reader Kind := Reader.choice choices

def toJson (divergence : Divergence) : Json :=
  .object
    [("step_index", natural divergence.index),
      ("kind", divergence.kind.toJson),
      ("description", .text divergence.description),
      ("expected", .text divergence.expected),
      ("actual", .text divergence.actual),
      ("detected_at", divergence.detectedAt.toJson)]

def form : Form [Nat, Kind, String, String, String, Instant] :=
  .field "step_index" (.natural UInt64.size "usize") .refused <|
  .field "kind" Kind.reader .refused <|
  .field "description" .text .refused <|
  .field "expected" .text .refused <|
  .field "actual" .text .refused <|
  .field "detected_at" Instant.reader .refused <|
  .done

def reader : Reader Divergence :=
  (form.reader "struct ReplayDivergence").map
    fun (index, kind, description, expected, actual, detectedAt, ()) =>
      ⟨index, kind, description, expected, actual, detectedAt⟩

end Divergence

namespace State

def toJson (state : State) : Json :=
  .object
    [("session_id", .text state.journalId),
      ("mode", state.mode.toJson),
      ("current_step", natural state.cursor),
      ("is_paused", .boolean state.paused),
      ("auto_advance", .boolean state.autoAdvance),
      ("step_delay_ms", word state.delay),
      ("current_files", state.files.toJson Snapshot.toJson),
      ("divergences", listOf Divergence.toJson state.divergences),
      ("applied_changes", listOf .text state.applied),
      ("skipped_steps", listOf natural state.skipped)]

def form (now : Instant) :
    Form [String, Mode, Nat, Bool, Bool, UInt64, Table Snapshot, List Divergence, List String,
      List Nat] :=
  .field "session_id" .text .refused <|
  .field "mode" Mode.reader .refused <|
  .field "current_step" (.natural UInt64.size "usize") .refused <|
  .field "is_paused" .boolean .refused <|
  .field "auto_advance" .boolean .refused <|
  .field "step_delay_ms" (.word64 "u64") .refused <|
  .field "current_files" (Table.reader (Snapshot.reader now)) .refused <|
  .field "divergences" (.list Divergence.reader) .refused <|
  .field "applied_changes" (.list .text) .refused <|
  .field "skipped_steps" (.list (.natural UInt64.size "usize")) .refused <|
  .done

def reader (now : Instant) : Reader State :=
  ((form now).reader "struct ReplayExecutionState").map
    fun (journalId, mode, cursor, paused, autoAdvance, delay, files, divergences, applied,
        skipped, ()) =>
      ⟨journalId, mode, cursor, paused, autoAdvance, delay, files, divergences, applied, skipped⟩

end State

end Playback
