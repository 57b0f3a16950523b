import Playback.Report
import Playback.Step.Line
import Playback.Text.Quoted

namespace Playback

namespace Outcome

def Status.label : Status → String
  | .completed => "done"
  | .skipped => "skip"
  | .failed => "fail"

def editLine (edit : Edit) : String :=
  "       ~ " ++ edit.path ++ " (" ++ toString edit.before.utf8ByteSize ++ " -> " ++
    toString edit.after.utf8ByteSize ++ " bytes)"

def divergenceLines (divergence : Divergence) : List String :=
  ["       divergence: " ++ divergence.description,
    "         expected: " ++ Text.quoted divergence.expected,
    "         actual:   " ++ Text.quoted divergence.actual]

def lines (outcome : Outcome) : List String :=
  ["[" ++ outcome.status.label ++ "] " ++ outcome.step.line] ++
  outcome.edits.map editLine ++
  (outcome.divergence.map divergenceLines).getD [] ++
  (outcome.error.map fun error => "       error: " ++ error).toList

def text (outcome : Outcome) : String := Playback.Text.ofLines outcome.lines

end Outcome

namespace Report

def verdict (report : Report) : String := if report.isClean then "clean" else "attention"

def countLine (report : Report) (elapsed : Nat) : String :=
  "  " ++ toString report.completed ++ " completed, " ++ toString report.skipped ++
    " skipped, " ++ toString report.failed ++ " failed, " ++ toString report.divergenceCount ++
    " divergences in " ++ toString (milliseconds elapsed) ++ " ms"

/-- The applied paths stand one on a line. -/
def appliedLines (report : Report) : List String :=
  if report.applied.isEmpty then []
  else "  paths to apply:" :: report.applied.map fun path => "    " ++ path

def lines (report : Report) (elapsed : Nat) : List String :=
  ["",
    "replay " ++ report.journalId ++ " (" ++ report.mode.name ++ " mode): " ++ report.verdict,
    report.countLine elapsed,
    "  cursor at step " ++ toString report.cursor] ++
  report.appliedLines

def text (report : Report) (elapsed : Nat := 0) : String :=
  Playback.Text.ofLines (report.lines elapsed)

end Report

end Playback
