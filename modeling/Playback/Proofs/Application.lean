import Playback.Proofs.Composition
import Playback.Proofs.Scope

namespace Playback

/-- Two applications that stand at the same step under the same skips and checks. Their files, and
where their settings let them start and end, are their own. -/
structure Player.Abreast (player other : Player) : Prop where
  applying : player.settings.mode = .apply
  mode : other.settings.mode = player.settings.mode
  skips : other.settings.skips = player.settings.skips
  verifies : other.settings.verifies = player.settings.verifies
  journal : other.journal = player.journal
  cursor : other.state.cursor = player.state.cursor

/-- The player goes on under settings with another last step. -/
def Player.endingAt (player : Player) (last : Option UInt64) : Player :=
  { player with settings := { player.settings with last := last } }

theorem Execution.ofOutcomes_append (index : Nat) (outcomes more : List Outcome) :
    ofOutcomes index (outcomes ++ more) =
      ofOutcomes index outcomes ++ ofOutcomes (index + outcomes.length) more := by
  induction outcomes generalizing index with
  | nil => rfl
  | cons outcome rest inductionHypothesis =>
      have later : index + 1 + rest.length = index + (outcome :: rest).length := by
        rw [List.length_cons]
        omega
      rw [List.cons_append, ofOutcomes, inductionHypothesis, later]
      rfl

/-- The outcome of an applied step is told by the step. -/
theorem Step.outcome_of_applying (step : Step) (scene : Scene)
    (applying : scene.settings.mode = .apply) :
    step.outcome (step.intended scene) = step.outcome (.shown step.shownEdits) := by
  have silent : step.divergence? scene = none := divergence?_of_not_simulate (by simp [applying])
  rw [outcome, outcome, intended, silent]
  split <;> rfl

namespace Turn

variable {player after : Player} {result : Except PlayFault Outcome} {outcome : Outcome}

/-- An application never diverges. -/
theorem quiet_of_applying (turn : Turn player (.ok outcome) after)
    (applying : player.settings.mode = .apply) : outcome.hasDivergence = false := by
  cases turn with
  | skipped step found skip => rfl
  | replayed step found kept accepted =>
      have same := step.outcome_of_applying player.scene applying
      rw [same, Outcome.hasDivergence, Step.outcome_divergence]
      rfl

/-- A turn does not ask where the replay is to end. -/
theorem endingAt (turn : Turn player result after) (last : Option UInt64) :
    Turn (player.endingAt last) result (after.endingAt last) := by
  cases turn with
  | exhausted finished => exact .exhausted finished
  | skipped step found skip => exact .skipped step found skip
  | rejected step found kept rejection refused =>
      exact @rejected (player.endingAt last) step found kept rejection refused
  | replayed step found kept accepted => exact .replayed step found kept accepted

end Turn

namespace Player.Abreast

variable {player other after : Player} {result : Except PlayFault Outcome} {last : Nat}

theorem of_same (applying : player.settings.mode = .apply)
    (settings : other.settings = player.settings) (journal : other.journal = player.journal)
    (cursor : other.state.cursor = player.state.cursor) : player.Abreast other :=
  ⟨applying, congrArg _ settings, congrArg _ settings, congrArg _ settings, journal, cursor⟩

theorem due_iff (abreast : player.Abreast other) : other.Due last ↔ player.Due last := by
  rw [Due, Due, abreast.journal, abreast.cursor]

/-- Applications abreast hand out the same in each turn and stay abreast. -/
theorem turn (abreast : player.Abreast other) (turn : Turn player result after) :
    ∃ next, Turn other result next ∧ after.Abreast next := by
  obtain ⟨applying, mode, skips, verifies, journal, cursor⟩ := abreast
  have step : other.journal.step? other.state.cursor =
      player.journal.step? player.state.cursor := by
    rw [journal, cursor]
  have onward : other.state.cursor + 1 = player.state.cursor + 1 := by rw [cursor]
  have held : other.settings.skips.holds other.state.cursor =
      player.settings.skips.holds player.state.cursor := by
    rw [skips, cursor]
  have refusal (step : Step) : step.refusal? other.settings = step.refusal? player.settings := by
    rw [Step.refusal?, Step.refusal?, mode, verifies]
  cases turn with
  | exhausted finished =>
      rw [← journal]
      exact ⟨other, .exhausted (step.trans finished), applying, mode, skips, verifies, journal,
        cursor⟩
  | skipped own found skip =>
      exact ⟨_, .skipped own (step.trans found) (held.trans skip), applying, mode, skips, verifies,
        journal, onward⟩
  | rejected own found kept rejection refused =>
      rw [← cursor]
      exact ⟨_, .rejected own (step.trans found) (held.trans kept) rejection
        ((refusal own).trans refused), applying, mode, skips, verifies, journal, onward⟩
  | replayed own found kept accepted =>
      have told := own.outcome_of_applying player.scene applying
      have toldAgain := own.outcome_of_applying other.scene (mode.trans applying)
      rw [told, ← toldAgain]
      exact ⟨_, .replayed own (step.trans found) (held.trans kept) ((refusal own).trans accepted),
        applying, mode, skips, verifies, journal, onward⟩

/-- Applications abreast make the same passage. -/
theorem passes {final : Player} {passage : Passage} (abreast : player.Abreast other)
    (passes : Passes last player passage final) :
    ∃ next, Passes last other passage next ∧ final.Abreast next := by
  induction passes generalizing other with
  | arrived ended => exact ⟨other, .arrived (mt abreast.due_iff.mp ended), abreast⟩
  | failed due turn =>
      obtain ⟨next, again, still⟩ := abreast.turn turn
      exact ⟨next, .failed (abreast.due_iff.mpr due) again, still⟩
  | diverged due turn met stops =>
      -- The other player may be told to stop at divergences, or not to, because there are none.
      rw [turn.quiet_of_applying abreast.applying] at met
      contradiction
  | onward due turn goes passes inductionHypothesis =>
      obtain ⟨next, again, still⟩ := abreast.turn turn
      obtain ⟨final, later, last⟩ := inductionHypothesis still
      have quiet := turn.quiet_of_applying abreast.applying
      exact ⟨final, .onward (abreast.due_iff.mpr due) again (fun _ => quiet) later, last⟩

theorem playThrough (abreast : player.Abreast other) (last : Nat) :
    (other.playThrough last).1 = (player.playThrough last).1 ∧
      (player.playThrough last).2.Abreast (other.playThrough last).2 := by
  obtain ⟨final, again, still⟩ := abreast.passes (player.passes_playThrough last)
  rw [again.playThrough]
  exact ⟨rfl, still⟩

/-- Applications abreast with the same last step end with the same. -/
theorem playToEnd (abreast : player.Abreast other)
    (last : other.settings.last = player.settings.last) :
    other.playToEnd.1 = player.playToEnd.1 ∧ player.playToEnd.2.Abreast other.playToEnd.2 := by
  rw [Player.playToEnd, Player.playToEnd, last, abreast.journal]
  exact abreast.playThrough _

end Player.Abreast

theorem Passes.endingAt {last : Nat} {player final : Player} {passage : Passage}
    (passes : Passes last player passage final) (other : Option UInt64) :
    Passes last (player.endingAt other) passage (final.endingAt other) := by
  induction passes with
  | arrived ended => exact .arrived ended
  | failed due turn => exact .failed due (turn.endingAt other)
  | diverged due turn met stops => exact .diverged due (turn.endingAt other) met stops
  | onward due turn goes passes inductionHypothesis =>
      exact .onward due (turn.endingAt other) goes inductionHypothesis

/-- A player with a last step of its own makes a passage of the player that has none. -/
theorem Player.passes_endingAt (player : Player) (last : UInt64)
    (toEnd : player.settings.last = none) :
    let taken := (player.endingAt (some last)).playToEnd
    Passes last.toNat player taken.1 (taken.2.endingAt none) := by
  have passes := ((player.endingAt (some last)).passes_playThrough last.toNat).endingAt none
  have same : (player.endingAt (some last)).endingAt none = player := by
    rw [endingAt, endingAt, ← toEnd]
  rwa [same] at passes

theorem Player.playToEnd_of_open {player : Player} (toEnd : player.settings.last = none) :
    player.playToEnd = player.playThrough (player.journal.length - 1) := by
  rw [playToEnd, toEnd]
  rfl

section Parts

variable (now : Instant) (journal : Journal) (settings : Settings)

/-- An application that jumps back to its first step and goes on to its end once more hands out the
same and ends as before. It notes everything twice. -/
theorem applications_repeat (applying : settings.mode = .apply)
    (inside : settings.first.toNat < journal.length) :
    let first := (Player.start now journal settings).playToEnd
    let back := first.2.jump settings.first.toNat
    let second := back.2.playToEnd
    back.1 = .ok () ∧ second.1 = first.1 ∧
      second.2.state.cursor = first.2.state.cursor ∧
      second.2.state.files = first.2.state.files ∧
      second.2.state.applied = first.2.state.applied ++ first.2.state.applied ∧
      second.2.state.skipped = first.2.state.skipped ++ first.2.state.skipped := by
  intro first back second
  let start := Player.start now journal settings
  have once : History start (Execution.ofOutcomes start.state.cursor first.1.outcomes) first.2 :=
    start.history_playToEnd
  obtain ⟨recorded, following, _⟩ := once.fixed
  have jumped : back = (.ok (), first.2.withState (first.2.state.moveTo first.2.settings _)) :=
    if_pos (recorded ▸ inside)
  have begins : back.2.state.cursor = start.state.cursor := by
    rw [jumped]
    exact (Nat.min_eq_left (Nat.le_of_lt inside)).symm
  have twice : History start
      (Execution.ofOutcomes start.state.cursor first.1.outcomes ++
        Execution.ofOutcomes back.2.state.cursor second.1.outcomes) second.2 :=
    (once.jump settings.first.toNat).play _
  have abreast : start.Abreast back.2 := by
    refine .of_same applying ?_ ?_ begins <;> rw [jumped]
    exacts [following, recorded]
  have last : back.2.settings.last = start.settings.last := by
    rw [jumped]
    exact congrArg Settings.last following
  obtain ⟨same, ends⟩ := abreast.playToEnd last
  change second.1 = first.1 at same
  -- With the same outcomes from the same position, the history holds the same executions twice.
  rw [begins, same] at twice
  refine ⟨congrArg Prod.fst jumped, same, ends.cursor, ?_, ?_, ?_⟩
  · rw [twice.files_told, once.files_told, Execution.writes_append, Table.ofList_append_self]
  · rw [twice.applied_told applying, once.applied_told applying, Execution.writes_append,
      List.map_append]
  · rw [twice.skipped_told, once.skipped_told, Execution.skips_append]

/-- A journal in which a file is edited before and after another one is written, and whose last
write has no path. -/
def Journal.editedAround : Journal :=
  { Journal.start .epoch "journal" with
    steps :=
      [{ Step.bare .epoch "edit" 0 .fileDiff with edit := some (.between "a" "old" "new") },
        { Step.bare .epoch "write" 1 .fileWrite with edit := some (.between "b" "" "text") },
        { Step.bare .epoch "again" 2 .fileDiff with edit := some (.between "a" "new" "newer") },
        { Step.bare .epoch "other" 3 .fileWrite with edit := some (.between "c" "" "text") },
        { Step.bare .epoch "unnamed" 4 .fileWrite with edit := some (.between "" "" "text") }] }

/-- The application from the second step on is repeated up to the write that is rejected. -/
theorem applications_repeat_of_editedAround :
    let settings := ((Settings.ofMode .apply).startingAt 1).skip 3
    let first := (Player.start .epoch .editedAround settings).playToEnd
    let second := (first.2.jump settings.first.toNat).2.playToEnd
    settings.mode = .apply ∧ settings.first.toNat < Journal.editedAround.length ∧
      first.1.stop ≠ .reached ∧ first.2.state.applied = ["b", "a"] ∧
      first.2.state.skipped = [3] ∧ second.1 = first.1 ∧
      second.2.state.files = first.2.state.files ∧
      second.2.state.applied = first.2.state.applied ++ first.2.state.applied ∧
      second.2.state.skipped = first.2.state.skipped ++ first.2.state.skipped := by
  obtain ⟨_, same, _, files, applied, skipped⟩ :=
    applications_repeat .epoch .editedAround (((Settings.ofMode .apply).startingAt 1).skip 3) rfl
      (by decide)
  exact ⟨rfl, by decide, by decide +kernel, by decide +kernel, by decide +kernel, same, files,
    applied, skipped⟩

section Front

variable {journal settings} {cut : UInt64} (fromStart : settings.first = 0)
  (toEnd : settings.last = none) (positive : 1 ≤ cut) (within : cut.toNat ≤ journal.length)
include fromStart toEnd positive within

/-- A replay that ends before the cut passes over the first steps of the whole replay. -/
theorem Player.passes_front :
    let start := Player.start now journal settings
    let front := (Player.start now journal (settings.endingAt (cut - 1))).playToEnd
    Passes (cut.toNat - 1) start front.1 (front.2.endingAt none) ∧
      (front.1.stop = .reached →
        front.2.state.cursor = cut.toNat ∧ front.1.outcomes.length = cut.toNat) := by
  intro start front
  have before : (cut - 1).toNat = cut.toNat - 1 := UInt64.toNat_sub_of_le _ _ positive
  have least : 1 ≤ cut.toNat := positive
  have begins : start.state.cursor = 0 := by
    change min settings.first.toNat journal.length = 0
    rw [fromStart]
    exact Nat.zero_min _
  have passes : Passes (cut.toNat - 1) start front.1 (front.2.endingAt none) :=
    before ▸ start.passes_endingAt (cut - 1) toEnd
  refine ⟨passes, fun reached => ?_⟩
  obtain ⟨arrived, count⟩ := passes.accounted.reached reached
  change front.2.state.cursor = max start.state.cursor (min _ journal.length) at arrived
  change start.state.cursor + _ = front.2.state.cursor at count
  omega

/-- If the first part reaches the cut, then the whole application goes on as the second part. -/
theorem Player.whole_of_reached (applying : settings.mode = .apply) :
    let front := (Player.start now journal (settings.endingAt (cut - 1))).playToEnd
    let back := (Player.start now journal (settings.startingAt cut)).playToEnd
    front.1.stop = .reached →
      ∃ final, (Player.start now journal settings).playToEnd =
          (⟨front.1.outcomes ++ back.1.outcomes, back.1.stop⟩, final) ∧
        back.2.Abreast final := by
  intro front back reached
  let first := Player.start now journal (settings.endingAt (cut - 1))
  let later := Player.start now journal (settings.startingAt cut)
  have history : History first _ front.2 := first.history_playToEnd
  obtain ⟨recorded, following, _⟩ := history.fixed
  obtain ⟨passes, arrives⟩ := passes_front now fromStart toEnd positive within
  have continues : later.state.cursor = cut.toNat := Nat.min_eq_left within
  have abreast : later.Abreast (front.2.endingAt none) :=
    { applying := applying
      mode := (congrArg Settings.mode following : front.2.settings.mode = _)
      skips := (congrArg Settings.skips following : front.2.settings.skips = _)
      verifies := (congrArg Settings.verifies following : front.2.settings.verifies = _)
      journal := recorded
      cursor := (arrives reached).1.trans continues.symm }
  have backward : later.playThrough (journal.length - 1) = (back.1, back.2) :=
    (playToEnd_of_open toEnd).symm
  obtain ⟨final, rest, still⟩ := abreast.passes (passes_iff.mpr backward)
  have ordered : cut.toNat - 1 ≤ journal.length - 1 := Nat.sub_le_sub_right within 1
  refine ⟨final, ?_, still⟩
  rw [playToEnd_of_open toEnd]
  exact (passes.append ordered reached rest).playThrough

end Front

/-- An application of a whole journal may be done in two parts by players of their own. If the first
one reaches the step before the cut, then the second one, which starts at the cut, goes on as the
whole application would. If not, then the first one already is the whole application. -/
theorem applications_in_parts (applying : settings.mode = .apply) (fromStart : settings.first = 0)
    (toEnd : settings.last = none) (cut : UInt64) (positive : 1 ≤ cut)
    (within : cut.toNat ≤ journal.length) :
    let whole := (Player.start now journal settings).playToEnd
    let front := (Player.start now journal (settings.endingAt (cut - 1))).playToEnd
    let back := (Player.start now journal (settings.startingAt cut)).playToEnd
    (front.1.stop = .reached →
      whole.1 = ⟨front.1.outcomes ++ back.1.outcomes, back.1.stop⟩ ∧
        whole.2.state.cursor = back.2.state.cursor ∧
        whole.2.state.applied = front.2.state.applied ++ back.2.state.applied ∧
        whole.2.state.skipped = front.2.state.skipped ++ back.2.state.skipped ∧
        whole.2.state.files = front.2.state.files.overwrite back.2.state.files.entries ∧
        whole.2.state.files.keys = front.2.state.files.keys ++
          back.2.state.files.keys.filter (· ∉ front.2.state.files.keys)) ∧
    (front.1.stop ≠ .reached → whole.1 = front.1 ∧ whole.2.state = front.2.state) := by
  intro whole front back
  obtain ⟨passes, arrives⟩ := Player.passes_front now fromStart toEnd positive within
  refine ⟨fun reached => ?_, fun early => ?_⟩
  · obtain ⟨final, same, still⟩ :=
      Player.whole_of_reached now fromStart toEnd positive within applying reached
    change whole = _ at same
    let start := Player.start now journal settings
    let first := Player.start now journal (settings.endingAt (cut - 1))
    let later := Player.start now journal (settings.startingAt cut)
    have told : History start (Execution.ofOutcomes start.state.cursor whole.1.outcomes) whole.2 :=
      start.history_playToEnd
    have frontTold : History first (Execution.ofOutcomes start.state.cursor front.1.outcomes)
      front.2 := first.history_playToEnd
    have backTold : History later (Execution.ofOutcomes later.state.cursor back.1.outcomes)
      back.2 := later.history_playToEnd
    -- The outcomes of the second part belong to the positions from the cut on.
    have onward : start.state.cursor + front.1.outcomes.length = later.state.cursor := by
      change min settings.first.toNat journal.length + _ = min cut.toNat journal.length
      rw [(arrives reached).2, fromStart, Nat.min_eq_left within]
      exact Nat.zero_add _
    rw [congrArg Prod.fst same, Execution.ofOutcomes_append, onward] at told
    have files : whole.2.state.files =
        front.2.state.files.overwrite back.2.state.files.entries := by
      rw [told.files_told, frontTold.files_told, backTold.files_told, Execution.writes_append,
        Table.ofList_append, Table.overwrite_ofList]
      rfl
    refine ⟨congrArg Prod.fst same, ?_, ?_, ?_, files, ?_⟩
    · rw [same]
      exact still.cursor
    · rw [told.applied_told applying, frontTold.applied_told applying,
        backTold.applied_told applying, Execution.writes_append, List.map_append]
      rfl
    · rw [told.skipped_told, frontTold.skipped_told, backTold.skipped_told,
        Execution.skips_append]
    · rw [files]
      exact Table.keys_overwrite _ back.2.state.files.distinct
  · have ordered : cut.toNat - 1 ≤ journal.length - 1 := Nat.sub_le_sub_right within 1
    have same : whole = (front.1, front.2.endingAt none) :=
      (Player.playToEnd_of_open toEnd).trans (passes.extend ordered early).playThrough
    rw [same]
    exact ⟨rfl, rfl⟩

/-- The second part tracks the edited file again and the other written one after it. If the first
part already goes on to the write that is rejected, then nothing is left for the second one. -/
theorem applications_in_parts_of_editedAround :
    let settings := Settings.ofMode .apply
    let whole := (Player.start .epoch .editedAround settings).playToEnd
    let front := fun cut => (Player.start .epoch .editedAround (settings.endingAt (cut - 1))).playToEnd
    let back := (Player.start .epoch .editedAround (settings.startingAt 2)).playToEnd
    settings.mode = .apply ∧ settings.first = 0 ∧ settings.last = none ∧
      (1 : UInt64) ≤ 2 ∧ UInt64.toNat 2 ≤ Journal.editedAround.length ∧
      (front 2).2.state.files.keys = ["a", "b"] ∧ back.2.state.files.keys = ["a", "c"] ∧
      whole.2.state.files = (front 2).2.state.files.overwrite back.2.state.files.entries ∧
      whole.2.state.files.keys = ["a", "b"] ++ ["c"] ∧
      (1 : UInt64) ≤ 5 ∧ UInt64.toNat 5 ≤ Journal.editedAround.length ∧
      (front 5).1.stop ≠ .reached ∧ whole.1 = (front 5).1 := by
  intro settings whole front back
  have frontKeys : (front 2).2.state.files.keys = ["a", "b"] := by decide +kernel
  have backKeys : back.2.state.files.keys = ["a", "c"] := by decide +kernel
  have reached : (front 2).1.stop = .reached := by decide +kernel
  have early : (front 5).1.stop ≠ .reached := by decide +kernel
  obtain ⟨continued, _⟩ :=
    applications_in_parts .epoch .editedAround settings rfl rfl rfl 2 (by decide) (by decide)
  obtain ⟨_, _, _, _, files, keys⟩ := continued reached
  obtain ⟨_, ended⟩ :=
    applications_in_parts .epoch .editedAround settings rfl rfl rfl 5 (by decide) (by decide)
  change whole.2.state.files.keys = (front 2).2.state.files.keys ++
    back.2.state.files.keys.filter (· ∉ (front 2).2.state.files.keys) at keys
  rw [frontKeys, backKeys] at keys
  exact ⟨rfl, rfl, rfl, by decide, by decide, frontKeys, backKeys, files, keys, by decide,
    by decide, early, (ended early).1⟩

end Parts

end Playback
