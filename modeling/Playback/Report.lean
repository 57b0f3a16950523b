import Playback.Player

namespace Playback

structure Report where
  journalId : String
  mode : Mode
  total : Nat
  completed : Nat
  skipped : Nat
  failed : Nat
  divergences : List Divergence
  applied : List String
  cursor : Nat
deriving DecidableEq

namespace Report

def count (status : Outcome.Status) (outcomes : List Outcome) : Nat :=
  outcomes.countP fun outcome => outcome.status = status

/-- The outcomes are counted, and everything else is taken from the state. -/
def of (state : State) (outcomes : List Outcome) : Report where
  journalId := state.journalId
  mode := state.mode
  total := outcomes.length
  completed := count .completed outcomes
  skipped := count .skipped outcomes
  failed := count .failed outcomes
  divergences := state.divergences
  applied := state.applied
  cursor := state.cursor

def divergenceCount (report : Report) : Nat := report.divergences.length

def isClean (report : Report) : Bool := report.divergences.isEmpty && report.failed == 0

end Report

end Playback
