import Playback.Journal.Encoding
import Playback.Report
import Playback.State.Encoding

namespace Playback

open Json

namespace Outcome

def Status.toJson (status : Status) : Json := .text status.name

def Status.reader : Reader Status := Reader.choice choices

/-- The time that was taken is told in milliseconds of 64 bits. -/
def toJson (outcome : Outcome) (elapsed : Nat := 0) : Json :=
  .object (
    [("step_number", natural outcome.number),
      ("status", outcome.status.toJson),
      ("step", outcome.step.toJson)] ++
    givenList "file_changes" Edit.toJson outcome.edits ++
    given "divergence" Divergence.toJson outcome.divergence ++
    given "error" .text outcome.error ++
    [("execution_ms", word (milliseconds elapsed).toUInt64)])

end Outcome

namespace Report

def toJson (report : Report) (elapsed : Nat := 0) : Json :=
  .object
    [("session_id", .text report.journalId),
      ("mode", report.mode.toJson),
      ("total_results", natural report.total),
      ("completed_count", natural report.completed),
      ("skipped_count", natural report.skipped),
      ("failed_count", natural report.failed),
      ("divergences", listOf Divergence.toJson report.divergences),
      ("applied_changes", listOf .text report.applied),
      ("cursor", natural report.cursor),
      ("total_ms", word (milliseconds elapsed).toUInt64)]

end Report

end Playback
