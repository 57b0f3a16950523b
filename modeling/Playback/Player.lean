import Playback.Effect
import Playback.Journal
import Playback.Passage
import Playback.State

namespace Playback

namespace State

/-- A tracked snapshot stands under its own path, and application notes that path. -/
def absorb (state : State) (settings : Settings) (effect : Effect) : State :=
  { state with
    files :=
      match effect.tracked with
      | none => state.files
      | some snapshot => state.files.put snapshot.path snapshot
    applied :=
      if settings.mode = .apply then state.applied ++ (effect.tracked.map Snapshot.path).toList
      else state.applied
    divergences := state.divergences ++ effect.divergence.toList }

def noteSkip (state : State) (index : Nat) : State :=
  { state with skipped := state.skipped ++ [index] }

/-- The cursor may arrive on a position before which the driver is to pause. -/
def moveTo (state : State) (settings : Settings) (index : Nat) : State :=
  { state with
    cursor := index
    paused := state.paused || settings.pausesBefore.holds index }

def advance (state : State) (settings : Settings) : State :=
  state.moveTo settings (state.cursor + 1)

def pauseIf (state : State) (condition : Bool) : State :=
  { state with paused := state.paused || condition }

end State

structure Player where
  journal : Journal
  settings : Settings
  now : Instant
  state : State

namespace Player

/-- The cursor starts within the journal. -/
def start (now : Instant) (journal : Journal) (settings : Settings) : Player :=
  let state := State.fresh journal.id settings
  ⟨journal, settings, now, state.moveTo settings (min state.cursor journal.length)⟩

def remaining (player : Player) : Nat := player.journal.length - player.state.cursor

def isFinished (player : Player) : Bool := player.remaining == 0

def scene (player : Player) : Scene where
  settings := player.settings
  now := player.now
  recorded := player.journal.files
  tracked := player.state.files
  index := player.state.cursor

def withState (player : Player) (state : State) : Player := { player with state := state }

/-- The step under the cursor is replayed, and the cursor moves on whether it succeeds or not. -/
def next (player : Player) : Except PlayFault Outcome × Player :=
  let index := player.state.cursor
  match player.journal.step? index with
  | none => (.error (.exhausted player.journal.length), player)
  | some step =>
      if player.settings.skips.holds index then
        (.ok (.skipped step),
          player.withState ((player.state.noteSkip index).advance player.settings))
      else
        match step.effect player.scene with
        | .error rejection =>
            (.error (.rejected index rejection.message),
              player.withState (player.state.advance player.settings))
        | .ok effect =>
            (.ok (step.outcome effect),
              player.withState
                (((player.state.absorb player.settings effect).advance player.settings).pauseIf
                  (player.settings.pausesAfter.holds index)))

/-- At most the given number of steps is replayed. -/
def play : Nat → Player → Passage × Player
  | 0, player => (⟨[], .reached⟩, player)
  | count + 1, player =>
      match player.next with
      | (.error fault, after) => (⟨[], .failed fault⟩, after)
      | (.ok outcome, after) =>
          if outcome.hasDivergence && player.settings.stopsAtDivergence then
            (⟨[outcome], .diverged player.state.cursor⟩, after)
          else
            let (passage, final) := play count after
            (⟨outcome :: passage.outcomes, passage.stop⟩, final)

/-- The steps from the cursor to the last one, or to the end of the journal. -/
def playThrough (player : Player) (last : Nat) : Passage × Player :=
  play (min (last + 1) player.journal.length - player.state.cursor) player

/-- Without a last step in the settings, the journal is replayed to its end. -/
def playToEnd (player : Player) : Passage × Player :=
  player.playThrough
    ((player.settings.last.map UInt64.toNat).getD (player.journal.length - 1))

/-- The cursor moves to a step of the journal, and nothing is replayed. -/
def jump (player : Player) (index : Nat) : Except PlayFault Unit × Player :=
  if index < player.journal.length then
    (.ok (), player.withState (player.state.moveTo player.settings index))
  else (.error (.outOfRange index player.journal.length), player)

def pause (player : Player) : Player :=
  player.withState { player.state with paused := true }

def resume (player : Player) : Player :=
  player.withState { player.state with paused := false }

end Player

end Playback
