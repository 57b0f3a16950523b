import Playback.Proofs.Passage
import Playback.Report

namespace Playback

/-- The outcomes in what was handed back. A failed passage keeps those before its failure. -/
def Returned.outcomes : Returned → List Outcome
  | .outcome result => result.toOption.toList
  | .passage taken => taken.outcomes
  | .moved _ | .nothing => []

/-- All outcomes that a sequence of operations hands out, in order and with repeats. -/
def Player.handedOut (player : Player) : List Operation → List Outcome
  | [] => []
  | operation :: rest =>
      (player.perform operation).1.outcomes ++ (player.perform operation).2.handedOut rest

theorem Execution.ofOutcomes_outcome (index : Nat) (outcomes : List Outcome) :
    (ofOutcomes index outcomes).map outcome = outcomes := by
  induction outcomes generalizing index with
  | nil => rfl
  | cons first rest inductionHypothesis =>
      rw [ofOutcomes, List.map_cons, inductionHypothesis]

theorem Returned.executions_outcome (index : Nat) (returned : Returned) :
    (returned.executions index).map Execution.outcome = returned.outcomes := by
  cases returned with
  | outcome result => cases result <;> rfl
  | passage taken => exact Execution.ofOutcomes_outcome index taken.outcomes
  | moved result => rfl
  | nothing => rfl

/-- The executions of a run are its outcomes with their positions. -/
theorem Player.executions_outcome (player : Player) (operations : List Operation) :
    (player.executions operations).map Execution.outcome = player.handedOut operations := by
  induction operations generalizing player with
  | nil => rfl
  | cons operation rest inductionHypothesis =>
      rw [executions, handedOut, List.map_append, Returned.executions_outcome, inductionHypothesis]

namespace Report

/-- Every outcome is counted under one status. -/
theorem count_total (outcomes : List Outcome) :
    count .completed outcomes + count .skipped outcomes + count .failed outcomes =
      outcomes.length := by
  induction outcomes with
  | nil => rfl
  | cons outcome rest inductionHypothesis =>
      rw [List.length_cons, ← inductionHypothesis]
      cases status : outcome.status <;> simp [count, status] <;> omega

theorem isClean_of_iff (state : State) (outcomes : List Outcome) :
    (Report.of state outcomes).isClean = true ↔
      state.divergences = [] ∧ ∀ outcome ∈ outcomes, outcome.status ≠ .failed := by
  simp [Report.of, isClean, count, List.countP_eq_zero]

end Report

/-- The divergences and the skips of a state are those of the outcomes handed out so far, and a report
of both counts every outcome once and is clean exactly if none of them failed or diverged. -/
theorem logs_of_run (now : Instant) (journal : Journal) (settings : Settings)
    (operations : List Operation) :
    let start := Player.start now journal settings
    let past := start.executions operations
    let outcomes := start.handedOut operations
    let state := (start.run operations).state
    let report := Report.of state outcomes
    past.map Execution.outcome = outcomes ∧
      (∀ earlier execution, earlier ++ [execution] <+: past →
        ∃ player after, execution.Happens start earlier player after) ∧
      state.divergences = outcomes.filterMap Outcome.divergence ∧
      state.skipped = (past.filter fun execution =>
        execution.outcome.status = .skipped).map Execution.index ∧
      report.completed + report.skipped + report.failed = report.total ∧
      report.total = outcomes.length ∧
      (report.isClean = true ↔
        ∀ outcome ∈ outcomes, outcome.status ≠ .failed ∧ outcome.divergence = none) := by
  intro start past outcomes state report
  have history : History start past (start.run operations) := start.history_run operations
  have same : past.map Execution.outcome = outcomes := start.executions_outcome operations
  have divergences : state.divergences = outcomes.filterMap Outcome.divergence := by
    rw [← same, List.filterMap_map]
    exact congrArg State.divergences history.told
  refine ⟨same, fun earlier execution => history.exists_happens, divergences,
    congrArg State.skipped history.told, Report.count_total outcomes, rfl, ?_⟩
  rw [Report.isClean_of_iff, divergences, List.filterMap_eq_nil_iff, ← forall₂_and]
  simp only [and_comm]

/-- A simulation that goes back to the edit of a removed file and skips the last step notes both
twice, and its report is not clean. -/
theorem logs_of_editedAgain :
    let settings := (Settings.ofMode .simulate).skip 2
    let operations := [.playToEnd, .jump 1, .playToEnd]
    let start := Player.start .epoch .editedTooLate settings
    let outcomes := start.handedOut operations
    let state := (start.run operations).state
    let report := Report.of state outcomes
    outcomes.map Outcome.status = [.completed, .completed, .skipped, .completed, .skipped] ∧
      state.divergences = outcomes.filterMap Outcome.divergence ∧
      state.divergences.map Divergence.index = [1, 1] ∧ state.skipped = [2, 2] ∧
      report.completed + report.skipped + report.failed = report.total ∧ report.total = 5 ∧
      report.isClean = false := by
  obtain ⟨_, _, divergences, _, counted, _⟩ := logs_of_run .epoch .editedTooLate
    ((Settings.ofMode .simulate).skip 2) [.playToEnd, .jump 1, .playToEnd]
  exact ⟨by decide +kernel, divergences, by decide +kernel, by decide +kernel, counted,
    by decide +kernel, by decide +kernel⟩

end Playback
