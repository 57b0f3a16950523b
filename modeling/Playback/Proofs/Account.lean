import Playback.Proofs.Books

namespace Playback

/-- What a step knows about the files after the earlier executions. -/
def Scene.told (now : Instant) (journal : Journal) (settings : Settings)
    (earlier : List Execution) (index : Nat) : Scene where
  settings := settings
  now := now
  recorded := journal.files
  tracked := .ofList (Execution.writes settings.mode now earlier)
  index := index

/-- An execution skips or replays the step at its position, and its outcome depends on the earlier
executions only. -/
inductive Execution.Told (now : Instant) (journal : Journal) (settings : Settings)
    (earlier : List Execution) : Execution → Prop where
  | skipped (index : Nat) (step : Step) (found : journal.step? index = some step)
      (skip : settings.skips.holds index = true) :
      Told now journal settings earlier ⟨index, .skipped step⟩
  | replayed (index : Nat) (step : Step) (found : journal.step? index = some step)
      (kept : settings.skips.holds index = false) (accepted : step.refusal? settings = none) :
      Told now journal settings earlier
        ⟨index, step.outcome (step.intended (.told now journal settings earlier index))⟩

/-- The scene of a replay is told by its history. -/
theorem History.scene_told {now : Instant} {journal : Journal} {settings : Settings}
    {past : List Execution} {player : Player}
    (history : History (Player.start now journal settings) past player) :
    player.scene = .told now journal settings past player.state.cursor := by
  obtain ⟨recorded, following, clock⟩ := history.fixed
  rw [Player.scene, recorded, following, clock, history.files_told]
  rfl

/-- Every execution of a replay is told by the executions before it. -/
theorem History.execution_told {now : Instant} {journal : Journal} {settings : Settings}
    {past earlier : List Execution} {player : Player} {execution : Execution}
    (history : History (Player.start now journal settings) past player)
    (within : earlier ++ [execution] <+: past) :
    execution.Told now journal settings earlier := by
  obtain ⟨before, after, earlierHistory, cursor, turn⟩ := history.exists_happens within
  obtain ⟨recorded, following, _⟩ := earlierHistory.fixed
  change before.journal = journal at recorded
  change before.settings = settings at following
  have scene := earlierHistory.scene_told
  obtain ⟨index, outcome⟩ := execution
  obtain rfl : before.state.cursor = index := cursor
  cases turn with
  | skipped step found skip =>
      rw [recorded] at found
      rw [following] at skip
      exact .skipped _ step found skip
  | replayed step found kept accepted =>
      rw [recorded] at found
      rw [following] at kept accepted
      rw [scene]
      exact .replayed _ step found kept accepted

theorem History.exists_told {now : Instant} {journal : Journal} {settings : Settings}
    {past : List Execution} {player : Player} {execution : Execution}
    (history : History (Player.start now journal settings) past player)
    (member : execution ∈ past) :
    ∃ earlier, earlier ++ [execution] <+: past ∧ execution.Told now journal settings earlier := by
  obtain ⟨earlier, later, parts⟩ := List.append_of_mem member
  have within : earlier ++ [execution] <+: past := ⟨later, by simp [parts]⟩
  exact ⟨earlier, within, history.execution_told within⟩

namespace Execution.Told

variable {now : Instant} {journal : Journal} {settings : Settings} {earlier : List Execution}
  {execution : Execution}

/-- An execution tells of the step at its position. -/
theorem step (told : execution.Told now journal settings earlier) :
    journal.step? execution.index = some execution.outcome.step := by
  cases told with
  | skipped index step found skip => exact found
  | replayed index step found kept accepted => rw [Step.outcome_step, found]

/-- An execution is skipped exactly if the settings skip its position. -/
theorem skipped_iff (told : execution.Told now journal settings earlier) :
    execution.outcome.status = .skipped ↔ settings.skips.holds execution.index = true := by
  cases told with
  | skipped index step found skip => exact iff_of_true rfl skip
  | replayed index step found kept accepted =>
      exact iff_of_false (step.outcome_status_ne_skipped _) (by simp [kept])

end Execution.Told

/-- The files of any run are the last writes of its executions. -/
theorem files_of_run (now : Instant) (journal : Journal) (settings : Settings)
    (operations : List Operation) :
    let start := Player.start now journal settings
    let past := start.executions operations
    let writes := Execution.writes settings.mode now past
    let state := (start.run operations).state
    (∀ execution ∈ past, journal.step? execution.index = some execution.outcome.step ∧
      (execution.outcome.status = .skipped ↔ settings.skips.holds execution.index = true)) ∧
      state.files.keys = (writes.map Prod.fst).eraseDups ∧
      (∀ path, state.tracked? path = Table.last? path writes) ∧
      state.applied = if settings.mode = .apply then writes.map Prod.fst else [] := by
  intro start past writes state
  have history : History start past (start.run operations) := start.history_run operations
  have files : state.files = .ofList writes := congrArg State.files history.told
  refine ⟨fun execution member => ?_, ?_, fun path => ?_, congrArg State.applied history.told⟩
  · obtain ⟨earlier, _, told⟩ := history.exists_told member
    exact ⟨told.step, told.skipped_iff⟩
  · rw [files, Table.keys_ofList]
  · rw [State.tracked?, files, Table.get?_ofList]

end Playback
