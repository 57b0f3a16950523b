import Playback.Player
import Playback.Proofs.Effect

namespace Playback

namespace Journal

variable {journal : Journal} {index : Nat}

theorem lt_length_of_step {step : Step} (found : journal.step? index = some step) :
    index < journal.length :=
  (List.getElem?_eq_some_iff.mp found).1

theorem length_le_of_no_step (finished : journal.step? index = none) : journal.length ≤ index :=
  List.getElem?_eq_none_iff.mp finished

end Journal

/-- A turn ends with the journal, skips the step, rejects it or replays it. -/
inductive Turn (player : Player) : Except PlayFault Outcome → Player → Prop where
  | exhausted (finished : player.journal.step? player.state.cursor = none) :
      Turn player (.error (.exhausted player.journal.length)) player
  | skipped (step : Step) (found : player.journal.step? player.state.cursor = some step)
      (skip : player.settings.skips.holds player.state.cursor = true) :
      Turn player (.ok (.skipped step))
        (player.withState ((player.state.noteSkip player.state.cursor).advance player.settings))
  | rejected (step : Step) (found : player.journal.step? player.state.cursor = some step)
      (kept : player.settings.skips.holds player.state.cursor = false) (rejection : Rejection)
      (refused : step.refusal? player.settings = some rejection) :
      Turn player (.error (.rejected player.state.cursor rejection.message))
        (player.withState (player.state.advance player.settings))
  | replayed (step : Step) (found : player.journal.step? player.state.cursor = some step)
      (kept : player.settings.skips.holds player.state.cursor = false)
      (accepted : step.refusal? player.settings = none) :
      Turn player (.ok (step.outcome (step.intended player.scene)))
        (player.withState
          (((player.state.absorb player.settings (step.intended player.scene)).advance
            player.settings).pauseIf (player.settings.pausesAfter.holds player.state.cursor)))

/-- The next step of a player is a turn. -/
theorem Player.next_turn (player : Player) : Turn player player.next.1 player.next.2 := by
  cases found : player.journal.step? player.state.cursor with
  | none =>
      have stays : player.next = (.error (.exhausted player.journal.length), player) := by
        simp only [next, found]
      rw [stays]
      exact .exhausted found
  | some step =>
      cases skip : player.settings.skips.holds player.state.cursor with
      | true =>
          have skips : player.next = (.ok (.skipped step), player.withState
              ((player.state.noteSkip player.state.cursor).advance player.settings)) := by
            simp only [next, found, skip, if_true]
          rw [skips]
          exact .skipped step found skip
      | false =>
          cases taken : step.effect player.scene with
          | error rejection =>
              have rejects : player.next =
                  (.error (.rejected player.state.cursor rejection.message),
                    player.withState (player.state.advance player.settings)) := by
                simp only [next, found, skip, taken, Bool.false_eq_true, if_false]
              rw [rejects]
              exact .rejected step found skip rejection (Step.refusal?_of_error taken)
          | ok effect =>
              have replays : player.next = (.ok (step.outcome effect), player.withState
                  (((player.state.absorb player.settings effect).advance player.settings).pauseIf
                    (player.settings.pausesAfter.holds player.state.cursor))) := by
                simp only [next, found, skip, taken, Bool.false_eq_true, if_false]
              obtain ⟨accepted, intended⟩ := Step.intended_of_ok taken
              rw [replays, ← intended]
              exact .replayed step found skip accepted

namespace Turn

variable {player after : Player} {result : Except PlayFault Outcome}

/-- A turn is what the player does next, so there is only one. -/
theorem next (turn : Turn player result after) : player.next = (result, after) := by
  cases turn with
  | exhausted finished => simp only [Player.next, finished]
  | skipped step found skip => simp only [Player.next, found, skip, if_true]
  | rejected step found kept rejection refused =>
      have refuses : step.effect player.scene = .error rejection := Step.effect_of_refusal refused
      simp only [Player.next, found, kept, refuses, Bool.false_eq_true, if_false]
  | replayed step found kept accepted =>
      have accepts : step.effect player.scene = .ok (step.intended player.scene) :=
        Step.effect_of_accepted accepted
      simp only [Player.next, found, kept, accepts, Bool.false_eq_true, if_false]

/-- A turn keeps the journal, the settings and the clock. -/
theorem fixed (turn : Turn player result after) :
    after.journal = player.journal ∧ after.settings = player.settings ∧ after.now = player.now := by
  cases turn <;> exact ⟨rfl, rfl, rfl⟩

/-- A turn that hands out an outcome moves on by one step. -/
theorem cursor_of_ok {outcome : Outcome} (turn : Turn player (.ok outcome) after) :
    after.state.cursor = player.state.cursor + 1 := by
  cases turn <;> rfl

end Turn

end Playback
