import Playback.Fault
import Playback.Json.Scalars
import Playback.Settings

namespace Playback

open Json

namespace Mode

def toJson (mode : Mode) : Json := .text mode.name

def reader : Reader Mode := Reader.choice choices

end Mode

namespace Settings

def toJson (settings : Settings) : Json :=
  .object
    [("mode", settings.mode.toJson),
      ("start_from_step", word settings.first),
      ("end_at_step", optional word settings.last),
      ("skip_steps", settings.skips.toJson),
      ("pause_before_steps", settings.pausesBefore.toJson),
      ("pause_after_steps", settings.pausesAfter.toJson),
      ("auto_advance", .boolean settings.autoAdvance),
      ("step_delay_ms", word settings.delay),
      ("stop_on_divergence", .boolean settings.stopsAtDivergence),
      ("validate_checksums", .boolean settings.verifies),
      ("truncate_limit", word settings.limit)]

def form :
    Form [Mode, UInt64, Option UInt64, IndexSet, IndexSet, IndexSet, Bool, UInt64, Bool, Bool,
      UInt64] :=
  .field "mode" Mode.reader (.filled standard.mode) <|
  .field "start_from_step" (.word64 "usize") (.filled standard.first) <|
  .field "end_at_step" (.optional (.word64 "usize")) (.filled standard.last) <|
  .field "skip_steps" IndexSet.reader (.filled standard.skips) <|
  .field "pause_before_steps" IndexSet.reader (.filled standard.pausesBefore) <|
  .field "pause_after_steps" IndexSet.reader (.filled standard.pausesAfter) <|
  .field "auto_advance" .boolean (.filled standard.autoAdvance) <|
  .field "step_delay_ms" (.word64 "u64") (.filled standard.delay) <|
  .field "stop_on_divergence" .boolean (.filled standard.stopsAtDivergence) <|
  .field "validate_checksums" .boolean (.filled standard.verifies) <|
  .field "truncate_limit" (.word64 "usize") (.filled standard.limit) <|
  .done

def reader : Reader Settings :=
  (form.reader "struct ReplayOptions").map
    fun (mode, first, last, skips, pausesBefore, pausesAfter, autoAdvance, delay,
        stopsAtDivergence, verifies, limit, ()) =>
      ⟨mode, first, last, skips, pausesBefore, pausesAfter, autoAdvance, delay,
        stopsAtDivergence, verifies, limit⟩

def ofText (text : String) : Except Fault Settings :=
  (reader.run text).mapError fun fault => .unreadableText fault.message

end Settings

end Playback
