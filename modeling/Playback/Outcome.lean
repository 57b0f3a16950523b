import Playback.Divergence
import Playback.Step

namespace Playback

namespace Outcome

/-- A step fails when the failure is what was recorded. -/
inductive Status where
  | completed
  | skipped
  | failed
deriving DecidableEq

namespace Status

def name : Status → String
  | .completed => "completed"
  | .skipped => "skipped"
  | .failed => "failed"

def choices : List (String × Status) :=
  [("completed", .completed), ("skipped", .skipped), ("failed", .failed)]

end Status

end Outcome

structure Outcome where
  status : Outcome.Status
  step : Step
  edits : List Edit
  divergence : Option Divergence
  error : Option String
deriving DecidableEq

namespace Outcome

def number (outcome : Outcome) : Nat := outcome.step.number

def hasDivergence (outcome : Outcome) : Bool := outcome.divergence.isSome

def skipped (step : Step) : Outcome := ⟨.skipped, step, [], none, none⟩

end Outcome

end Playback
