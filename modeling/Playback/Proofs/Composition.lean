import Playback.Proofs.Passage

namespace Playback

namespace Passes

variable {between last : Nat} {player middle final : Player} {first second : Passage}

/-- A due passage stays due when its last step moves on. -/
theorem due_mono (due : player.Due between) (ordered : between ≤ last) : player.Due last :=
  ⟨Nat.le_trans due.1 ordered, due.2⟩

/-- A passage that reached its last step goes on as a longer one. -/
theorem append (passes : Passes between player first middle) (ordered : between ≤ last)
    (reached : first.stop = .reached) (later : Passes last middle second final) :
    Passes last player ⟨first.outcomes ++ second.outcomes, second.stop⟩ final := by
  induction passes with
  | arrived ended => exact later
  | failed due turn => contradiction
  | diverged due turn met stops => contradiction
  | onward due turn goes passes inductionHypothesis =>
      exact .onward (due_mono due ordered) turn goes (inductionHypothesis reached later)

/-- A passage that ended before its last step is no other for a later last step. -/
theorem extend (passes : Passes between player first final) (ordered : between ≤ last)
    (early : first.stop ≠ .reached) : Passes last player first final := by
  induction passes with
  | arrived ended => contradiction
  | failed due turn => exact .failed (due_mono due ordered) turn
  | diverged due turn met stops => exact .diverged (due_mono due ordered) turn met stops
  | onward due turn goes passes inductionHypothesis =>
      exact .onward (due_mono due ordered) turn goes (inductionHypothesis early)

end Passes

namespace Player

/-- The player after a number of turns. -/
def after (player : Player) : Nat → Player
  | 0 => player
  | count + 1 => player.next.2.after count

/-- The outcomes that a number of turns hands out. -/
def outcomes (player : Player) : Nat → List Outcome
  | 0 => []
  | count + 1 => player.next.1.toOption.toList ++ player.next.2.outcomes count

/-- Why a passage ends with the next turn, if it does. -/
def halt? (player : Player) : Option Stop :=
  match player.next.1 with
  | .error fault => some (.failed fault)
  | .ok outcome =>
      if outcome.hasDivergence && player.settings.stopsAtDivergence then
        some (.diverged player.state.cursor)
      else none

variable {player next : Player} {outcome : Outcome} {fault : PlayFault}

theorem halt?_of_error (turn : Turn player (.error fault) next) :
    player.halt? = some (.failed fault) := by
  rw [halt?, turn.next]

theorem halt?_eq_none_iff (turn : Turn player (.ok outcome) next) :
    player.halt? = none ↔
      (player.settings.stopsAtDivergence = true → outcome.hasDivergence = false) := by
  rw [halt?, turn.next]
  cases player.settings.stopsAtDivergence <;> simp

theorem halt?_eq_some_iff (turn : Turn player (.ok outcome) next) {stop : Stop} :
    player.halt? = some stop ↔
      (outcome.hasDivergence = true ∧ player.settings.stopsAtDivergence = true) ∧
        .diverged player.state.cursor = stop := by
  rw [halt?, turn.next]
  cases player.settings.stopsAtDivergence <;> simp

end Player

/-- A passage is a number of turns, each of them due and none but the last one halting. It ends with
the halt of its last turn, or else where no further turn is due. -/
structure Passage.Iterates (passage : Passage) (last : Nat) (player final : Player) (count : Nat) :
    Prop where
  arrives : final = player.after count
  outcomes : passage.outcomes = player.outcomes count
  due : ∀ turn < count, (player.after turn).Due last
  onward : ∀ turn, turn + 1 < count → (player.after turn).halt? = none
  stop : passage.stop = .reached ∧ ¬ final.Due last ∧
      (∀ turn < count, (player.after turn).halt? = none) ∨
    ∃ turn, count = turn + 1 ∧ (player.after turn).halt? = some passage.stop

namespace Passage.Iterates

variable {last count : Nat} {player next final : Player} {passage : Passage} {outcome : Outcome}
  {result : Except PlayFault Outcome} {stop : Stop}

/-- A turn that halts is a passage of its own. -/
theorem single (due : player.Due last) (turn : Turn player result next)
    (halts : player.halt? = some stop) :
    Passage.Iterates ⟨result.toOption.toList, stop⟩ last player next 1 where
  arrives := by rw [Player.after, Player.after, turn.next]
  outcomes := by simp [Player.outcomes, turn.next]
  due index inside := by
    obtain rfl : index = 0 := by omega
    exact due
  onward index inside := by omega
  stop := .inr ⟨0, rfl, halts⟩

/-- A turn that does not halt comes before the turns of the rest. -/
theorem cons (due : player.Due last) (turn : Turn player (.ok outcome) next)
    (goes : player.halt? = none) (rest : passage.Iterates last next final count) :
    Passage.Iterates ⟨outcome :: passage.outcomes, passage.stop⟩ last player final (count + 1) := by
  have after (index : Nat) : player.after (index + 1) = next.after index := by
    rw [Player.after, turn.next]
  refine ⟨by rw [after, rest.arrives], by simp [Player.outcomes, turn.next, rest.outcomes,
    Except.toOption], fun index inside => ?_, fun index inside => ?_, ?_⟩
  · cases index with
    | zero => exact due
    | succ index => exact after index ▸ rest.due index (by omega)
  · cases index with
    | zero => exact goes
    | succ index => exact after index ▸ rest.onward index (by omega)
  · rcases rest.stop with ⟨reached, ended, quiet⟩ | ⟨index, rfl, halts⟩
    · refine .inl ⟨reached, ended, fun index inside => ?_⟩
      cases index with
      | zero => exact goes
      | succ index => exact after index ▸ quiet index (by omega)
    · exact .inr ⟨index + 1, rfl, after index ▸ halts⟩

/-- A first turn that halts is the whole passage. -/
theorem eq_single (turn : Turn player result next) (halts : player.halt? = some stop)
    (iterates : passage.Iterates last player final (count + 1)) :
    passage = ⟨result.toOption.toList, stop⟩ ∧ final = next := by
  have alone : count = 0 := by
    refine Nat.eq_zero_of_not_pos fun more => ?_
    have goes : player.halt? = none := iterates.onward 0 (by omega)
    rw [goes] at halts
    contradiction
  subst alone
  have outcomes := iterates.outcomes
  have arrives := iterates.arrives
  simp only [Player.outcomes, Player.after, turn.next, List.append_nil] at outcomes arrives
  rcases iterates.stop with ⟨_, _, quiet⟩ | ⟨index, same, halts'⟩
  · have goes : player.halt? = none := quiet 0 (by omega)
    rw [goes] at halts
    contradiction
  · obtain rfl : index = 0 := by omega
    obtain rfl := Option.some.inj (halts.symm.trans halts')
    exact ⟨by rw [← outcomes], arrives⟩

/-- After a first turn that does not halt comes the rest of the passage. -/
theorem exists_rest (turn : Turn player (.ok outcome) next) (goes : player.halt? = none)
    (iterates : passage.Iterates last player final (count + 1)) :
    ∃ rest : Passage, passage = ⟨outcome :: rest.outcomes, rest.stop⟩ ∧
      rest.Iterates last next final count := by
  have after (index : Nat) : player.after (index + 1) = next.after index := by
    rw [Player.after, turn.next]
  have outcomes := iterates.outcomes
  simp only [Player.outcomes, turn.next, Except.toOption, Option.toList, List.singleton_append]
    at outcomes
  refine ⟨⟨next.outcomes count, passage.stop⟩, by rw [← outcomes], ?_, rfl,
    fun index inside => ?_, fun index inside => ?_, ?_⟩
  · rw [iterates.arrives, after]
  · exact after index ▸ iterates.due (index + 1) (by omega)
  · exact after index ▸ iterates.onward (index + 1) (by omega)
  · rcases iterates.stop with ⟨reached, ended, quiet⟩ | ⟨index, same, halts⟩
    · exact .inl ⟨reached, ended, fun index inside => after index ▸ quiet (index + 1) (by omega)⟩
    · cases index with
      | zero =>
          have same : none = some passage.stop := goes.symm.trans halts
          contradiction
      | succ index => exact .inr ⟨index, by omega, after index ▸ halts⟩

end Passage.Iterates

section Iterates

variable {last count : Nat} {player final : Player} {passage : Passage}

/-- The loop of a passage is a row of turns. -/
theorem Passes.iterates (passes : Passes last player passage final) :
    ∃ count, passage.Iterates last player final count := by
  induction passes with
  | arrived ended =>
      exact ⟨0, rfl, rfl, by simp, by simp, .inl ⟨rfl, ended, by simp⟩⟩
  | failed due turn => exact ⟨1, .single due turn (Player.halt?_of_error turn)⟩
  | diverged due turn met stops =>
      exact ⟨1, .single due turn ((Player.halt?_eq_some_iff turn).mpr ⟨⟨met, stops⟩, rfl⟩)⟩
  | onward due turn goes passes inductionHypothesis =>
      obtain ⟨count, rest⟩ := inductionHypothesis
      exact ⟨count + 1, rest.cons due turn ((Player.halt?_eq_none_iff turn).mpr goes)⟩

/-- A row of turns is a run of the loop. -/
theorem Passage.Iterates.passes (iterates : passage.Iterates last player final count) :
    Passes last player passage final := by
  induction count generalizing player passage with
  | zero =>
      obtain ⟨outcomes, stop⟩ := passage
      obtain rfl := iterates.arrives
      obtain rfl : outcomes = [] := iterates.outcomes
      rcases iterates.stop with ⟨rfl, ended, _⟩ | ⟨index, impossible, _⟩
      · exact .arrived ended
      · contradiction
  | succ count inductionHypothesis =>
      have due : player.Due last := iterates.due 0 (Nat.succ_pos count)
      have turn := player.next_turn
      generalize player.next = taken at turn
      rcases taken with ⟨fault | outcome, next⟩
      · obtain ⟨rfl, rfl⟩ := iterates.eq_single turn (Player.halt?_of_error turn)
        exact .failed due turn
      · cases halted : player.halt? with
        | none =>
            obtain ⟨rest, rfl, later⟩ := iterates.exists_rest turn halted
            have goes := (Player.halt?_eq_none_iff turn).mp halted
            exact .onward due turn goes (inductionHypothesis later)
        | some stop =>
            obtain ⟨rfl, rfl⟩ := iterates.eq_single turn halted
            obtain ⟨⟨met, stops⟩, rfl⟩ := (Player.halt?_eq_some_iff turn).mp halted
            exact .diverged due turn met stops

end Iterates

/-- A passage may rest at any step before its last one. If it reached that step, the passage from
there on completes it, and if it ended early, it is complete. In any case it is the row of turns up
to the first one that halts, or to where no turn is due. -/
theorem passages_in_parts (player : Player) (between last : Nat) (ordered : between ≤ last) :
    let first := player.playThrough between
    let second := first.2.playThrough last
    (first.1.stop = .reached →
      player.playThrough last =
        (⟨first.1.outcomes ++ second.1.outcomes, second.1.stop⟩, second.2)) ∧
    (first.1.stop ≠ .reached → player.playThrough last = first) ∧
    ∀ passage final, player.playThrough last = (passage, final) ↔
      ∃ count, passage.Iterates last player final count := by
  intro first second
  have passes := player.passes_playThrough between
  have later := first.2.passes_playThrough last
  refine ⟨fun reached => ?_, fun early => ?_, fun passage final => ⟨fun taken => ?_, ?_⟩⟩
  · exact (passes.append ordered reached later).playThrough
  · exact (passes.extend ordered early).playThrough
  · exact (passes_iff.mpr taken).iterates
  · rintro ⟨count, iterates⟩
    exact iterates.passes.playThrough

/-- A simulation that rests after the first step goes on to the divergence of the second one, and a
further passage would not have gone beyond it. -/
theorem parts_of_editedTooLate :
    let player := Player.start .epoch .editedTooLate ((Settings.ofMode .simulate).withStop true)
    let first := player.playThrough 0
    let second := first.2.playThrough 1
    0 ≤ 1 ∧ first.1.stop = .reached ∧ second.1.stop = .diverged 1 ∧
      player.playThrough 1 =
        (⟨first.1.outcomes ++ second.1.outcomes, second.1.stop⟩, second.2) ∧
      1 ≤ 2 ∧ player.playThrough 2 = player.playThrough 1 := by
  intro player first second
  have reached : first.1.stop = .reached := by decide +kernel
  have diverged : second.1.stop = .diverged 1 := by decide +kernel
  have early : (player.playThrough 1).1.stop ≠ .reached := by decide +kernel
  obtain ⟨goesOn, _⟩ := passages_in_parts player 0 1 (by decide)
  obtain ⟨_, stays, _⟩ := passages_in_parts player 1 2 (by decide)
  exact ⟨by decide, reached, diverged, goesOn reached, by decide, stays early⟩

end Playback
