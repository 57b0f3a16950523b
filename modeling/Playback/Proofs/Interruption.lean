import Playback.Proofs.Passage

namespace Playback

namespace Player

def withStop (player : Player) (stops : Bool) : Player :=
  { player with settings := player.settings.withStop stops }

/-- The player goes on with another journal. -/
def onJournal (player : Player) (journal : Journal) : Player := { player with journal := journal }

end Player

/-- Two journals with the same steps up to a position, recorded from the same files. -/
structure Journal.AgreesTo (journal other : Journal) (index : Nat) : Prop where
  files : journal.files = other.files
  steps : ∀ position ≤ index, journal.step? position = other.step? position

namespace Turn

variable {player after : Player} {result : Except PlayFault Outcome} {outcome : Outcome}

/-- A turn does not ask whether a passage is to stop at a divergence. -/
theorem withStop (turn : Turn player result after) (stops : Bool) :
    Turn (player.withStop stops) result (after.withStop stops) := by
  cases turn with
  | exhausted finished => exact .exhausted finished
  | skipped step found skip => exact .skipped step found skip
  | rejected step found kept rejection refused =>
      exact @rejected (player.withStop stops) step found kept rejection refused
  | replayed step found kept accepted => exact .replayed step found kept accepted

/-- A turn reads its own step only, and the files from the start of the recording. -/
theorem onJournal (turn : Turn player (.ok outcome) after) {journal : Journal}
    (files : journal.files = player.journal.files)
    (step : journal.step? player.state.cursor = player.journal.step? player.state.cursor) :
    Turn (player.onJournal journal) (.ok outcome) (after.onJournal journal) := by
  cases turn with
  | skipped own found skip => exact .skipped own (step.trans found) skip
  | replayed own found kept accepted =>
      have scene : (player.onJournal journal).scene = player.scene := by
        rw [Player.scene, Player.scene, Player.onJournal, files]
      rw [← scene]
      exact .replayed own (step.trans found) kept accepted

end Turn

namespace Passes

variable {last index : Nat} {player final : Player} {passage : Passage}

/-- A passage without divergences has none to stop at. -/
theorem stopping (passes : Passes last player passage final)
    (quiet : ∀ outcome ∈ passage.outcomes, outcome.hasDivergence = false)
    (endless : player.settings.stopsAtDivergence = false) :
    Passes last (player.withStop true) passage (final.withStop true) := by
  induction passes with
  | arrived ended => exact .arrived ended
  | failed due turn => exact .failed due (turn.withStop true)
  | diverged due turn met stops =>
      rw [endless] at stops
      contradiction
  | onward due turn goes passes inductionHypothesis =>
      obtain ⟨first, rest⟩ := List.forall_mem_cons.mp quiet
      obtain ⟨_, settings, _⟩ := turn.fixed
      exact .onward due (turn.withStop true) (fun _ => first)
        (inductionHypothesis rest (settings ▸ endless))

/-- The passage up to the first divergence is the one that rests there, and the one that stops. -/
theorem cut (passes : Passes last player passage final)
    (endless : player.settings.stopsAtDivergence = false) {offset : Nat}
    (first : passage.outcomes.findIdx? Outcome.hasDivergence = some offset) :
    ∃ middle,
      Passes (player.state.cursor + offset) player
        ⟨passage.outcomes.take (offset + 1), .reached⟩ middle ∧
      Passes last (player.withStop true)
        ⟨passage.outcomes.take (offset + 1), .diverged (player.state.cursor + offset)⟩
        (middle.withStop true) := by
  induction passes generalizing offset with
  | arrived ended => contradiction
  | failed due turn => contradiction
  | diverged due turn met stops =>
      rw [endless] at stops
      contradiction
  | @onward player after final outcome rest due turn goes passes inductionHypothesis =>
      have within : player.Due (player.state.cursor + offset) := ⟨Nat.le_add_right _ _, due.2⟩
      have quiet : player.settings.stopsAtDivergence = true → outcome.hasDivergence = false := by
        rw [endless]
        exact nofun
      rw [List.findIdx?_cons] at first
      -- The first divergence is that of this outcome, or else the first one of the rest.
      cases met : outcome.hasDivergence with
      | true =>
          obtain rfl : 0 = offset := by simpa [met] using first
          have past : ¬ after.Due player.state.cursor := by
            rw [Player.Due, turn.cursor_of_ok]
            omega
          exact ⟨after, .onward within turn quiet (.arrived past),
            .diverged due (turn.withStop true) met rfl⟩
      | false =>
          obtain ⟨offset, later, rfl⟩ : ∃ later,
              rest.outcomes.findIdx? Outcome.hasDivergence = some later ∧ later + 1 = offset := by
            simpa [met] using first
          obtain ⟨_, settings, _⟩ := turn.fixed
          obtain ⟨middle, resting, stopping⟩ := inductionHypothesis (settings ▸ endless) later
          have cursor : after.state.cursor + offset = player.state.cursor + (offset + 1) := by
            rw [turn.cursor_of_ok]
            omega
          rw [cursor] at resting stopping
          have onward : Passes last (player.withStop true) _ (middle.withStop true) :=
            .onward due (turn.withStop true) (fun _ => met) stopping
          exact ⟨middle, .onward within turn quiet resting, onward⟩

/-- A passage that stops at a divergence is the same for any steps that come later. -/
theorem onJournal (passes : Passes last player passage final)
    (diverged : passage.stop = .diverged index) {journal : Journal}
    (agrees : journal.AgreesTo player.journal index) :
    Passes last (player.onJournal journal) passage (final.onJournal journal) := by
  induction passes with
  | arrived ended => contradiction
  | failed due turn => contradiction
  | diverged due turn met stops =>
      obtain rfl := Stop.diverged.inj diverged
      have step := agrees.steps _ (Nat.le_refl _)
      have again := turn.onJournal agrees.files step
      have inside := Journal.lt_length_of_step (step.trans turn.step_of_ok)
      exact .diverged ⟨due.1, inside⟩ again met stops
  | @onward player after final outcome rest due turn goes passes inductionHypothesis =>
      -- The rest of the passage ends at the index, so this step lies before it.
      obtain ⟨_, reached, _, _⟩ := passes.accounted.diverged index diverged
      rw [turn.cursor_of_ok] at reached
      obtain ⟨recorded, _, _⟩ := turn.fixed
      have step := agrees.steps player.state.cursor (by omega)
      have again := turn.onJournal agrees.files step
      have inside := Journal.lt_length_of_step (step.trans turn.step_of_ok)
      exact .onward ⟨due.1, inside⟩ again goes (inductionHypothesis diverged (recorded ▸ agrees))

end Passes

/-- A passage that is to stop at divergences is the one that is not, if that one meets none. Otherwise
it ends with the first divergence, in the state of a passage that rests there, whatever steps come
after it. -/
theorem passages_cut_short (player : Player) (last : Nat) :
    let through := player.withStop false
    let stopping := player.withStop true
    let whole := through.playThrough last
    let cut := stopping.playThrough last
    (whole.1.outcomes.findIdx? Outcome.hasDivergence = none →
      cut.1 = whole.1 ∧ cut.2.state = whole.2.state) ∧
    ∀ offset, whole.1.outcomes.findIdx? Outcome.hasDivergence = some offset →
      let index := player.state.cursor + offset
      let resting := through.playThrough index
      (∃ outcome, whole.1.outcomes[offset]? = some outcome ∧
        player.journal.step? index = some outcome.step) ∧
      cut.1 = ⟨whole.1.outcomes.take (offset + 1), .diverged index⟩ ∧
      resting.1 = ⟨whole.1.outcomes.take (offset + 1), .reached⟩ ∧
      cut.2.state = resting.2.state ∧
      ∀ journal : Journal, journal.AgreesTo player.journal index →
        let elsewhere := (stopping.onJournal journal).playThrough last
        elsewhere.1 = cut.1 ∧ elsewhere.2.state = cut.2.state := by
  intro through stopping whole cut
  have passes := through.passes_playThrough last
  constructor
  · intro none
    have quiet (outcome : Outcome) (member : outcome ∈ whole.1.outcomes) :
        outcome.hasDivergence = false :=
      List.findIdx?_eq_none_iff.mp none outcome member
    have same : cut = (whole.1, whole.2.withStop true) := (passes.stopping quiet rfl).playThrough
    rw [same]
    exact ⟨rfl, rfl⟩
  · intro offset first index resting
    obtain ⟨middle, rests, stops⟩ := passes.cut rfl first
    have rested : resting = (⟨whole.1.outcomes.take (offset + 1), .reached⟩, middle) :=
      rests.playThrough
    have stopped : cut = (⟨whole.1.outcomes.take (offset + 1), .diverged index⟩,
        middle.withStop true) := stops.playThrough
    have inside : offset < whole.1.outcomes.length := by
      obtain ⟨inside, _⟩ := List.findIdx?_eq_some_iff_getElem.mp first
      exact inside
    have found : whole.1.outcomes[offset]? = some whole.1.outcomes[offset] :=
      List.getElem?_eq_getElem inside
    rw [rested, stopped]
    refine ⟨⟨_, found, passes.accounted.steps offset _ found⟩, rfl, rfl, rfl,
      fun journal agrees => ?_⟩
    intro elsewhere
    have again : elsewhere = (⟨whole.1.outcomes.take (offset + 1), .diverged index⟩,
        (middle.withStop true).onJournal journal) := (stops.onJournal rfl agrees).playThrough
    rw [again]
    exact ⟨rfl, rfl⟩

/-- A simulation that goes on after the edit of a removed file fails at a write without a path. One that
stops is cut short at the edit. -/
theorem cut_of_editedTooLate :
    let journal := Journal.editedTooLate.append
      { Step.bare .epoch "write" 3 .fileWrite with edit := some (.between "" "old" "new") }
    let player := Player.start .epoch journal (.ofMode .simulate)
    let whole := (player.withStop false).playThrough 3
    let cut := (player.withStop true).playThrough 3
    whole.1.outcomes.map Outcome.hasDivergence = [false, true, false] ∧
      whole.1.stop = .failed (.rejected 3 "file step has an empty path") ∧
      cut.1 = ⟨whole.1.outcomes.take 2, .diverged 1⟩ ∧
      cut.2.state = ((player.withStop false).playThrough 1).2.state := by
  intro journal player whole cut
  have met : whole.1.outcomes.map Outcome.hasDivergence = [false, true, false] := by decide +kernel
  have failed : whole.1.stop = .failed (.rejected 3 "file step has an empty path") := by
    decide +kernel
  have first : whole.1.outcomes.findIdx? Outcome.hasDivergence = some 1 := by decide +kernel
  obtain ⟨_, stops⟩ := passages_cut_short player 3
  obtain ⟨_, same, _, state, _⟩ := stops 1 first
  exact ⟨met, failed, same, state⟩

end Playback
