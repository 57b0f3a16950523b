import Playback.Divergence
import Playback.Settings

namespace Playback

/-- The cursor is the position of the next step, and the files are those that the replay has
touched. -/
structure State where
  journalId : String
  mode : Mode
  cursor : Nat
  paused : Bool
  autoAdvance : Bool
  delay : UInt64
  files : Table Snapshot
  divergences : List Divergence
  applied : List String
  skipped : List Nat
deriving DecidableEq

namespace State

def fresh (journalId : String) (settings : Settings) : State where
  journalId := journalId
  mode := settings.mode
  cursor := settings.first.toNat
  paused := false
  autoAdvance := settings.autoAdvance
  delay := settings.delay
  files := .empty
  divergences := []
  applied := []
  skipped := []

def hasDivergences (state : State) : Bool := !state.divergences.isEmpty

def tracked? (state : State) (path : String) : Option Snapshot := state.files.get? path

def appliedCount (state : State) : Nat := state.applied.length

end State

end Playback
