/-
This file tells the runs of a player by the outcomes that they hand out on the way.
-/

import Playback.Proofs.Turn

namespace Playback

/-- What a driver may ask of a player. -/
inductive Operation where
  | next
  | playThrough (last : Nat)
  | playToEnd
  | jump (index : Nat)
  | pause
  | resume
deriving DecidableEq

/-- What a player hands back after an operation. -/
inductive Returned where
  | outcome (result : Except PlayFault Outcome)
  | passage (passage : Passage)
  | moved (result : Except PlayFault Unit)
  | nothing

/-- An outcome together with the position of its step in the journal. -/
structure Execution where
  index : Nat
  outcome : Outcome
deriving DecidableEq

namespace Execution

/-- A turn adds its outcome to the history, unless it fails. -/
def ofResult (index : Nat) : Except PlayFault Outcome → List Execution
  | .error _ => []
  | .ok outcome => [⟨index, outcome⟩]

/-- The outcomes of a passage belong to consecutive steps. -/
def ofOutcomes (index : Nat) : List Outcome → List Execution
  | [] => []
  | outcome :: rest => ⟨index, outcome⟩ :: ofOutcomes (index + 1) rest

end Execution

/-- The executions behind what was returned, when the cursor stood at the index. -/
def Returned.executions (index : Nat) : Returned → List Execution
  | .outcome result => Execution.ofResult index result
  | .passage taken => Execution.ofOutcomes index taken.outcomes
  | .moved _ | .nothing => []

namespace Player

def perform (player : Player) : Operation → Returned × Player
  | .next => player.next.map .outcome id
  | .playThrough last => (player.playThrough last).map .passage id
  | .playToEnd => player.playToEnd.map .passage id
  | .jump index => (player.jump index).map .moved id
  | .pause => (.nothing, player.pause)
  | .resume => (.nothing, player.resume)

/-- The player after a sequence of operations. -/
def run (player : Player) : List Operation → Player
  | [] => player
  | operation :: rest => (player.perform operation).2.run rest

/-- The executions of a sequence of operations, in order and with repeats. -/
def executions (player : Player) : List Operation → List Execution
  | [] => []
  | operation :: rest =>
      (player.perform operation).1.executions player.state.cursor ++
        (player.perform operation).2.executions rest

end Player

/-- A history leads from the first player to a later one by single turns, jumps and pauses. -/
inductive History (first : Player) : List Execution → Player → Prop where
  | start : History first [] first
  | turn {past : List Execution} {player after : Player} {result : Except PlayFault Outcome}
      (history : History first past player) (turn : Turn player result after) :
      History first (past ++ Execution.ofResult player.state.cursor result) after
  | jump {past : List Execution} {player : Player} (history : History first past player)
      (index : Nat) : History first past (player.jump index).2
  | pause {past : List Execution} {player : Player} (history : History first past player) :
      History first past player.pause
  | resume {past : List Execution} {player : Player} (history : History first past player) :
      History first past player.resume

namespace History

variable {first player : Player} {past : List Execution}

/-- A passage extends a history by its outcomes. -/
theorem play (history : History first past player) (count : Nat) :
    History first
      (past ++ Execution.ofOutcomes player.state.cursor (Player.play count player).1.outcomes)
      (Player.play count player).2 := by
  induction count generalizing past player with
  | zero => simpa [Player.play, Execution.ofOutcomes] using history
  | succ count inductionHypothesis =>
      have turn := player.next_turn
      have extended := history.turn turn
      rw [Player.play]
      generalize player.next = taken at turn extended
      rcases taken with ⟨fault | outcome, after⟩
      · simpa [Execution.ofOutcomes, Execution.ofResult] using extended
      · dsimp only
        split
        · exact extended
        · have rest := inductionHypothesis extended
          rw [turn.cursor_of_ok, List.append_assoc] at rest
          exact rest

/-- Every operation extends a history by what it returns. -/
theorem perform (history : History first past player) (operation : Operation) :
    History first (past ++ (player.perform operation).1.executions player.state.cursor)
      (player.perform operation).2 := by
  cases operation with
  | next => exact history.turn player.next_turn
  | playThrough last => exact history.play _
  | playToEnd => exact history.play _
  | jump index => simpa [Player.perform, Returned.executions] using history.jump index
  | pause => simpa [Player.perform, Returned.executions] using history.pause
  | resume => simpa [Player.perform, Returned.executions] using history.resume

/-- Every run has a history of its executions. -/
theorem run (history : History first past player) (operations : List Operation) :
    History first (past ++ player.executions operations) (player.run operations) := by
  induction operations generalizing past player with
  | nil => simpa [Player.run, Player.executions] using history
  | cons operation rest inductionHypothesis =>
      have later := inductionHypothesis (history.perform operation)
      rw [List.append_assoc] at later
      exact later

/-- The journal, the settings and the clock are those of the first player. -/
theorem fixed (history : History first past player) :
    player.journal = first.journal ∧ player.settings = first.settings ∧
      player.now = first.now := by
  induction history with
  | start => exact ⟨rfl, rfl, rfl⟩
  | turn history turn inductionHypothesis =>
      obtain ⟨journal, settings, now⟩ := turn.fixed
      rw [journal, settings, now]
      exact inductionHypothesis
  | jump history index inductionHypothesis =>
      rw [Player.jump]
      split <;> exact inductionHypothesis
  | pause history inductionHypothesis => exact inductionHypothesis
  | resume history inductionHypothesis => exact inductionHypothesis

end History

/-- An execution happens in a turn on the step at its position, after the earlier executions. -/
structure Execution.Happens (first : Player) (earlier : List Execution) (execution : Execution)
    (player after : Player) : Prop where
  history : History first earlier player
  cursor : player.state.cursor = execution.index
  turn : Turn player (.ok execution.outcome) after

/-- Every execution of a history happens. -/
theorem History.exists_happens {first player : Player} {past earlier : List Execution}
    {execution : Execution} (history : History first past player)
    (within : earlier ++ [execution] <+: past) :
    ∃ before after, execution.Happens first earlier before after := by
  induction history with
  | start => simp at within
  | @turn past player after result history turn inductionHypothesis =>
      cases result with
      | error fault => exact inductionHypothesis (by simpa [Execution.ofResult] using within)
      | ok outcome =>
          rcases List.prefix_concat_iff.mp within with last | before
          · obtain ⟨rfl, same⟩ := List.append_inj' last rfl
            obtain rfl := List.head_eq_of_cons_eq same
            exact ⟨player, after, history, rfl, turn⟩
          · exact inductionHypothesis before
  | jump history index inductionHypothesis => exact inductionHypothesis within
  | pause history inductionHypothesis => exact inductionHypothesis within
  | resume history inductionHypothesis => exact inductionHypothesis within

/-- A run from the start has the history of its executions. -/
theorem Player.history_run (player : Player) (operations : List Operation) :
    History player (player.executions operations) (player.run operations) := by
  simpa using History.start.run operations

/-- A passage to the end has the history of its outcomes. -/
theorem Player.history_playToEnd (player : Player) :
    History player (Execution.ofOutcomes player.state.cursor player.playToEnd.1.outcomes)
      player.playToEnd.2 :=
  History.start.play _

end Playback
