import Playback.Proofs.Books

namespace Playback

namespace Turn

variable {player after : Player} {result : Except PlayFault Outcome} {outcome : Outcome}
  {fault : PlayFault}

/-- A turn on a step of the journal moves on by one, however it ends. -/
theorem cursor_of_inside (turn : Turn player result after)
    (inside : player.state.cursor < player.journal.length) :
    after.state.cursor = player.state.cursor + 1 := by
  cases turn with
  | exhausted finished =>
      have outside := Journal.length_le_of_no_step finished
      omega
  | skipped | rejected | replayed => rfl

/-- A turn moves on from a step only, so it stays within the journal. -/
theorem cursor_le (turn : Turn player result after)
    (within : player.state.cursor ≤ player.journal.length) :
    after.state.cursor ≤ player.journal.length := by
  cases turn with
  | exhausted finished => exact within
  | skipped step found | rejected step found | replayed step found =>
      exact Journal.lt_length_of_step found

/-- An outcome belongs to the step under the cursor. -/
theorem step_of_ok (turn : Turn player (.ok outcome) after) :
    player.journal.step? player.state.cursor = some outcome.step := by
  cases turn with
  | skipped step found skip => exact found
  | replayed step found kept accepted => rw [Step.outcome_step, found]

/-- On a step of the journal a turn fails only by a rejection. -/
theorem rejected_of_error (turn : Turn player (.error fault) after)
    (inside : player.state.cursor < player.journal.length) :
    ∃ reason, fault = .rejected player.state.cursor reason := by
  cases turn with
  | exhausted finished =>
      have outside := Journal.length_le_of_no_step finished
      omega
  | rejected step found kept rejection refused => exact ⟨rejection.message, rfl⟩

end Turn

/-- A passage is due to go on while the cursor stands on a step that is not past the last one. -/
def Player.Due (player : Player) (last : Nat) : Prop :=
  player.state.cursor ≤ last ∧ player.state.cursor < player.journal.length

/-- The loop of a passage. It ends when it is not due any more, at a failure, or at a divergence if
the settings tell it to stop there. -/
inductive Passes (last : Nat) : Player → Passage → Player → Prop where
  | arrived {player : Player} (ended : ¬ player.Due last) :
      Passes last player ⟨[], .reached⟩ player
  | failed {player after : Player} {fault : PlayFault} (due : player.Due last)
      (turn : Turn player (.error fault) after) :
      Passes last player ⟨[], .failed fault⟩ after
  | diverged {player after : Player} {outcome : Outcome} (due : player.Due last)
      (turn : Turn player (.ok outcome) after) (met : outcome.hasDivergence = true)
      (stops : player.settings.stopsAtDivergence = true) :
      Passes last player ⟨[outcome], .diverged player.state.cursor⟩ after
  | onward {player after final : Player} {outcome : Outcome} {rest : Passage}
      (due : player.Due last) (turn : Turn player (.ok outcome) after)
      (goes : player.settings.stopsAtDivergence = true → outcome.hasDivergence = false)
      (passes : Passes last after rest final) :
      Passes last player ⟨outcome :: rest.outcomes, rest.stop⟩ final

namespace Player

variable {player after : Player} {last : Nat} {outcome : Outcome} {fault : PlayFault}

theorem playThrough_of_ended (ended : ¬ player.Due last) :
    player.playThrough last = (⟨[], .reached⟩, player) := by
  have none : min (last + 1) player.journal.length - player.state.cursor = 0 := by
    rw [Due] at ended
    omega
  rw [playThrough, none, play]

/-- A passage that is due begins with a turn, after which one step less is left. -/
theorem playThrough_of_due (due : player.Due last) :
    player.playThrough last =
      play (min (last + 1) player.journal.length - (player.state.cursor + 1) + 1) player := by
  have some : min (last + 1) player.journal.length - player.state.cursor =
      min (last + 1) player.journal.length - (player.state.cursor + 1) + 1 := by
    rw [Due] at due
    omega
  rw [playThrough, some]

theorem playThrough_of_error (due : player.Due last) (turn : Turn player (.error fault) after) :
    player.playThrough last = (⟨[], .failed fault⟩, after) := by
  rw [playThrough_of_due due, play, turn.next]

theorem playThrough_of_divergence (due : player.Due last) (turn : Turn player (.ok outcome) after)
    (met : outcome.hasDivergence = true) (stops : player.settings.stopsAtDivergence = true) :
    player.playThrough last = (⟨[outcome], .diverged player.state.cursor⟩, after) := by
  rw [playThrough_of_due due, play, turn.next]
  simp [met, stops]

theorem playThrough_onward (due : player.Due last) (turn : Turn player (.ok outcome) after)
    (goes : player.settings.stopsAtDivergence = true → outcome.hasDivergence = false) :
    player.playThrough last =
      (⟨outcome :: (after.playThrough last).1.outcomes, (after.playThrough last).1.stop⟩,
        (after.playThrough last).2) := by
  obtain ⟨journal, _, _⟩ := turn.fixed
  have quiet : (outcome.hasDivergence && player.settings.stopsAtDivergence) = false := by
    cases stops : player.settings.stopsAtDivergence with
    | false => exact Bool.and_false _
    | true => rw [goes stops, Bool.false_and]
  rw [playThrough_of_due due, play, turn.next]
  simp [quiet, playThrough, journal, turn.cursor_of_ok]

/-- The passage of a player is a run of the loop, because each turn leaves one step less. -/
theorem passes_playThrough (player : Player) (last : Nat) :
    Passes last player (player.playThrough last).1 (player.playThrough last).2 := by
  induction left : player.journal.length - player.state.cursor generalizing player with
  | zero =>
      have ended : ¬ player.Due last := by
        rw [Due]
        omega
      rw [playThrough_of_ended ended]
      exact .arrived ended
  | succ count inductionHypothesis =>
      by_cases due : player.Due last
      · have turn := player.next_turn
        generalize player.next = taken at turn
        rcases taken with ⟨fault | outcome, after⟩
        · rw [playThrough_of_error due turn]
          exact .failed due turn
        · by_cases stop : outcome.hasDivergence = true ∧ player.settings.stopsAtDivergence = true
          · rw [playThrough_of_divergence due turn stop.1 stop.2]
            exact .diverged due turn stop.1 stop.2
          · have goes (stops : player.settings.stopsAtDivergence = true) :
                outcome.hasDivergence = false :=
              Bool.eq_false_iff.mpr fun met => stop ⟨met, stops⟩
            obtain ⟨journal, _, _⟩ := turn.fixed
            have less : after.journal.length - after.state.cursor = count := by
              rw [journal, turn.cursor_of_ok]
              omega
            rw [playThrough_onward due turn goes]
            exact .onward due turn goes (inductionHypothesis after less)
      · rw [playThrough_of_ended due]
        exact .arrived due

end Player

/-- The loop has one result, which is the passage of the player. -/
theorem Passes.playThrough {last : Nat} {player final : Player} {passage : Passage}
    (passes : Passes last player passage final) :
    player.playThrough last = (passage, final) := by
  induction passes with
  | arrived ended => exact Player.playThrough_of_ended ended
  | failed due turn => exact Player.playThrough_of_error due turn
  | diverged due turn met stops => exact Player.playThrough_of_divergence due turn met stops
  | onward due turn goes passes inductionHypothesis =>
      rw [Player.playThrough_onward due turn goes, inductionHypothesis]

theorem passes_iff {last : Nat} {player final : Player} {passage : Passage} :
    Passes last player passage final ↔ player.playThrough last = (passage, final) := by
  constructor
  · exact Passes.playThrough
  · intro same
    have passes := player.passes_playThrough last
    rwa [same] at passes

namespace Passage

variable {passage : Passage}

theorem fault?_eq_some_iff {fault : PlayFault} :
    passage.fault? = some fault ↔ passage.stop = .failed fault := by
  rw [fault?]
  cases passage.stop <;> simp

theorem fault?_eq_none_iff :
    passage.fault? = none ↔ passage.stop = .reached ∨ ∃ index, passage.stop = .diverged index := by
  rw [fault?]
  cases passage.stop <;> simp

end Passage

/-- The account of a passage from one position of the cursor to another. -/
structure Passage.Accounted (journal : Journal) (last start final : Nat) (passage : Passage) :
    Prop where
  steps : ∀ offset outcome, passage.outcomes[offset]? = some outcome →
    journal.step? (start + offset) = some outcome.step
  reached : passage.stop = .reached →
    final = max start (min (last + 1) journal.length) ∧ start + passage.outcomes.length = final
  diverged : ∀ index, passage.stop = .diverged index →
    final = index + 1 ∧ start ≤ index ∧ start + passage.outcomes.length = final ∧
      ∀ offset outcome, passage.outcomes[offset]? = some outcome →
        (outcome.hasDivergence = true ↔ start + offset = index)
  failed : ∀ fault, passage.stop = .failed fault →
    ∃ index reason, fault = .rejected index reason ∧ final = index + 1 ∧
      start + passage.outcomes.length = index

/-- Only under settings that stop at a divergence a passage ends there. -/
theorem Passes.stops {last index : Nat} {player final : Player} {passage : Passage}
    (passes : Passes last player passage final) (diverged : passage.stop = .diverged index) :
    player.settings.stopsAtDivergence = true := by
  induction passes with
  | arrived ended => contradiction
  | failed due turn => contradiction
  | diverged due turn met stops => exact stops
  | onward due turn goes passes inductionHypothesis =>
      obtain ⟨_, settings, _⟩ := turn.fixed
      rw [← settings]
      exact inductionHypothesis diverged

namespace Passage.Accounted

variable {journal : Journal} {last start final : Nat} {rest : Passage} {outcome : Outcome}

/-- An outcome before an accounted passage belongs to the step before it. -/
theorem onward (accounted : rest.Accounted journal last (start + 1) final)
    (within : start ≤ last ∧ start < journal.length)
    (step : journal.step? start = some outcome.step)
    (goes : ∀ index, rest.stop = .diverged index → outcome.hasDivergence = false) :
    Passage.Accounted journal last start final ⟨outcome :: rest.outcomes, rest.stop⟩ where
  steps offset other found := by
    cases offset with
    | zero =>
        obtain rfl := Option.some.inj found
        exact step
    | succ offset =>
        have later := accounted.steps offset other found
        rwa [show start + (offset + 1) = start + 1 + offset by omega]
  reached stop := by
    obtain ⟨arrived, count⟩ := accounted.reached stop
    rw [List.length_cons]
    omega
  diverged index stop := by
    obtain ⟨arrived, after, count, met⟩ := accounted.diverged index stop
    refine ⟨arrived, by omega, by rw [List.length_cons]; omega, ?_⟩
    intro offset other found
    cases offset with
    | zero =>
        obtain rfl := Option.some.inj found
        rw [goes index stop]
        exact iff_of_false Bool.false_ne_true (by omega)
    | succ offset =>
        rw [met offset other found]
        omega
  failed fault stop := by
    obtain ⟨index, reason, rejected, arrived, count⟩ := accounted.failed fault stop
    exact ⟨index, reason, rejected, arrived, by rw [List.length_cons]; omega⟩

end Passage.Accounted

/-- The loop accounts for the steps between the cursors before and after it. -/
theorem Passes.accounted {last : Nat} {player final : Player} {passage : Passage}
    (passes : Passes last player passage final) :
    passage.Accounted player.journal last player.state.cursor final.state.cursor := by
  induction passes with
  | @arrived player ended =>
      have arrived : player.state.cursor =
          max player.state.cursor (min (last + 1) player.journal.length) := by
        rw [Player.Due] at ended
        omega
      exact ⟨by simp, fun _ => ⟨arrived, rfl⟩, by simp, by simp⟩
  | @failed player after fault due turn =>
      obtain ⟨reason, rejected⟩ := turn.rejected_of_error due.2
      have moved := turn.cursor_of_inside due.2
      refine ⟨by simp, by simp, by simp, ?_⟩
      intro other same
      obtain rfl := Stop.failed.inj same
      exact ⟨player.state.cursor, reason, rejected, moved, rfl⟩
  | @diverged player after outcome due turn met stops =>
      have only {offset : Nat} {other : Outcome} (found : [outcome][offset]? = some other) :
          offset = 0 ∧ outcome = other := by
        cases offset with
        | zero => exact ⟨rfl, Option.some.inj found⟩
        | succ offset => simp at found
      refine ⟨fun offset other found => ?_, by simp, fun index stop => ?_, by simp⟩
      · obtain ⟨rfl, rfl⟩ := only found
        exact turn.step_of_ok
      · obtain rfl := Stop.diverged.inj stop
        refine ⟨turn.cursor_of_ok, Nat.le_refl _, turn.cursor_of_ok.symm, fun offset other found => ?_⟩
        obtain ⟨rfl, rfl⟩ := only found
        exact iff_of_true met rfl
  | onward due turn goes passes inductionHypothesis =>
      obtain ⟨journal, settings, _⟩ := turn.fixed
      rw [journal, turn.cursor_of_ok] at inductionHypothesis
      refine inductionHypothesis.onward due turn.step_of_ok fun index diverged => ?_
      exact goes (settings ▸ passes.stops diverged)

/-- The cursor never leaves the journal. -/
theorem History.cursor_le {now : Instant} {journal : Journal} {settings : Settings}
    {past : List Execution} {player : Player}
    (history : History (Player.start now journal settings) past player) :
    player.state.cursor ≤ journal.length := by
  induction history with
  | start => exact Nat.min_le_right settings.first.toNat journal.length
  | turn history turn inductionHypothesis =>
      obtain ⟨recorded, _, _⟩ := history.fixed
      change _ = journal at recorded
      have within := turn.cursor_le
      rw [recorded] at within
      exact within inductionHypothesis
  | jump history index inductionHypothesis =>
      obtain ⟨recorded, _, _⟩ := history.fixed
      change _ = journal at recorded
      rw [Player.jump, recorded]
      split
      · rename_i inside
        exact Nat.le_of_lt inside
      · exact inductionHypothesis
  | pause history inductionHypothesis => exact inductionHypothesis
  | resume history inductionHypothesis => exact inductionHypothesis

/-- In every state of a run the cursor stands in the journal or at its end, the next turn moves it by
one step only, and every passage is the one finite run of its loop, with the account of its steps. -/
theorem accounts_of_run (now : Instant) (journal : Journal) (settings : Settings)
    (operations : List Operation) :
    let player := (Player.start now journal settings).run operations
    let start := player.state.cursor
    let ending := (settings.last.map UInt64.toNat).getD (journal.length - 1)
    start ≤ journal.length ∧ player.remaining + start = journal.length ∧
      (start < journal.length → player.next.2.state.cursor = start + 1) ∧
      (∀ last passage final,
        Passes last player passage final ↔ player.playThrough last = (passage, final)) ∧
      (∀ last passage final, player.playThrough last = (passage, final) →
        passage.Accounted journal last start final.state.cursor) ∧
      ∀ passage final, player.playToEnd = (passage, final) →
        Passes ending player passage final ∧
          passage.Accounted journal ending start final.state.cursor := by
  intro player start ending
  have history := (Player.start now journal settings).history_run operations
  obtain ⟨recorded, following, _⟩ := history.fixed
  change player.journal = journal at recorded
  change player.settings = settings at following
  have within : start ≤ journal.length := history.cursor_le
  have accounted (last : Nat) (passage : Passage) (final : Player)
      (taken : player.playThrough last = (passage, final)) :
      passage.Accounted journal last start final.state.cursor := by
    have account := (passes_iff.mpr taken).accounted
    rwa [recorded] at account
  refine ⟨within, ?_, fun inside => ?_, fun last passage final => passes_iff, accounted,
    fun passage final taken => ?_⟩
  · rw [Player.remaining, recorded]
    omega
  · rw [← recorded] at inside
    exact player.next_turn.cursor_of_inside inside
  · rw [Player.playToEnd, recorded, following] at taken
    exact ⟨passes_iff.mpr taken, accounted ending passage final taken⟩

/-- A journal in which a file is edited after it was removed and before the last step. -/
def Journal.editedTooLate : Journal :=
  (((Journal.start .epoch "journal").append
      { Step.bare .epoch "removal" 0 .fileRemove with
        edit := some (.between "a" "old" "") }).append
      { Step.bare .epoch "edit" 1 .fileDiff with
        edit := some (.between "a" "old" "new") }).append
    (Step.bare .epoch "prompt" 2 .userPrompt)

/-- The passage over that journal accounts for the two steps before it stops at the divergence. -/
theorem accounts_of_editedTooLate :
    let player := Player.start .epoch .editedTooLate ((Settings.ofMode .simulate).withStop true)
    let last := 18446744073709551615
    let taken := player.playThrough last
    taken.1.stop = .diverged 1 ∧ taken.1.outcomes.map Outcome.hasDivergence = [false, true] ∧
      taken.1.Accounted .editedTooLate last 0 taken.2.state.cursor ∧
      Passes last player taken.1 taken.2 := by
  intro player last taken
  obtain ⟨_, _, _, loop, accounted, _⟩ := accounts_of_run .epoch .editedTooLate
    ((Settings.ofMode .simulate).withStop true) []
  have stop : taken.1.stop = .diverged 1 := by decide +kernel
  have met : taken.1.outcomes.map Outcome.hasDivergence = [false, true] := by decide +kernel
  exact ⟨stop, met, accounted last taken.1 taken.2 rfl, (loop last taken.1 taken.2).mpr rfl⟩

end Playback
