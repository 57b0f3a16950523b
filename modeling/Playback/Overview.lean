import Playback.Journal
import Playback.Step.Line

namespace Playback

structure Overview where
  id : String
  progress : Progress
  prompt : Option String
  steps : Nat
  modelCalls : Nat
  inputTokens : UInt64
  outputTokens : UInt64
  fileSteps : Nat
  hasErrors : Bool
  startedAt : Instant
  duration : Option Nat
deriving DecidableEq

namespace Journal

def isFailure (step : Step) : Bool :=
  match step.kind with
  | .error | .buildError => true
  | _ => false

/-- The milliseconds from the start to the end of the recording. -/
def duration? (journal : Journal) : Option Nat :=
  (journal.completedAt.bind fun finish => journal.startedAt.elapsed? finish).map milliseconds

/-- Tokens are counted from the replies, and steps that change files by what they would do. A sum
that does not fit 64 bits wraps around. -/
def overview (journal : Journal) : Overview :=
  let replies := journal.steps.filterMap Step.reply
  { id := journal.id
    progress := journal.progress
    prompt := journal.prompt
    steps := journal.length
    modelCalls := journal.steps.countP fun step => step.kind = .modelRequest
    inputTokens := replies.foldl (fun total reply => total + reply.inputTokens) 0
    outputTokens := replies.foldl (fun total reply => total + reply.outputTokens) 0
    fileSteps := journal.steps.countP Step.isDestructive
    hasErrors := journal.progress == .failed || journal.steps.any isFailure
    startedAt := journal.startedAt
    duration := journal.duration? }

def promptLines (prompt : Option String) : List String :=
  (prompt.map fun prompt => "  prompt:        " ++ preview prompt).toList

def durationLines (duration : Option Nat) : List String :=
  (duration.map fun duration => "  duration:      " ++ toString duration ++ " ms").toList

/-- The lines above the steps. -/
def headerLines (journal : Journal) : List String :=
  let overview := journal.overview
  ["session " ++ overview.id,
    "  status:        " ++ overview.progress.label,
    "  format:        " ++ journal.edition.text] ++
  promptLines overview.prompt ++
  ["  steps:         " ++ toString overview.steps,
    "  model calls:   " ++ toString overview.modelCalls,
    "  tokens:        " ++ toString overview.inputTokens.toNat ++ " in / " ++
      toString overview.outputTokens.toNat ++ " out",
    "  file steps:    " ++ toString overview.fileSteps] ++
  durationLines overview.duration ++
  (if overview.hasErrors then ["  recorded run contains errors"] else [])

/-- An empty line stands between the header and the steps. -/
def overviewText (journal : Journal) : String :=
  Text.ofLines (journal.headerLines ++ [""] ++ journal.steps.map Step.line)

end Journal

end Playback
