import Playback.Proofs.Account

namespace Playback

/-- Reading leaves all books empty, simulation applies nothing and application compares nothing. -/
structure State.WithinScope (journal : Journal) (settings : Settings) (state : State) : Prop where
  journalId : state.journalId = journal.id
  mode : state.mode = settings.mode
  autoAdvance : state.autoAdvance = settings.autoAdvance
  delay : state.delay = settings.delay
  reading : state.mode = .readOnly →
    state.files = .empty ∧ state.applied = [] ∧ state.divergences = []
  simulating : state.mode = .simulate → state.applied = []
  applying : state.mode = .apply → state.divergences = []

/-- Reading leaves no file behind. -/
theorem Execution.writes_readOnly (now : Instant) (past : List Execution) :
    writes .readOnly now past = [] := by
  apply List.filterMap_eq_nil_iff.mpr
  intro execution _
  rw [Outcome.write?]
  split <;> rfl

/-- Only simulation meets divergences. -/
theorem Step.divergence?_of_not_simulate {step : Step} {scene : Scene}
    (other : scene.settings.mode ≠ .simulate) : step.divergence? scene = none := by
  rw [divergence?]
  split
  · contradiction
  · rfl
  · rfl

theorem Execution.Told.divergence_of_not_simulate {now : Instant} {journal : Journal}
    {settings : Settings} {earlier : List Execution} {execution : Execution}
    (told : execution.Told now journal settings earlier) (other : settings.mode ≠ .simulate) :
    execution.outcome.divergence = none := by
  cases told with
  | skipped index step found skip => rfl
  | replayed index step found kept accepted =>
      rw [Step.outcome_divergence]
      exact Step.divergence?_of_not_simulate other

/-- Without simulation a history has no divergences. -/
theorem History.divergences_of_not_simulate {now : Instant} {journal : Journal}
    {settings : Settings} {past : List Execution} {player : Player}
    (history : History (Player.start now journal settings) past player)
    (other : settings.mode ≠ .simulate) : Execution.divergences past = [] := by
  apply List.filterMap_eq_nil_iff.mpr
  intro execution member
  obtain ⟨earlier, _, told⟩ := history.exists_told member
  exact told.divergence_of_not_simulate other

/-- Every run stays within the scope of its mode. -/
theorem scope_of_run (now : Instant) (journal : Journal) (settings : Settings)
    (operations : List Operation) :
    ((Player.start now journal settings).run operations).state.WithinScope journal settings := by
  have history := (Player.start now journal settings).history_run operations
  rw [history.told]
  refine ⟨rfl, rfl, rfl, rfl, fun reading => ?_, fun simulating => ?_, fun applying => ?_⟩
  · change settings.mode = .readOnly at reading
    have silent := history.divergences_of_not_simulate (by simp [reading])
    exact ⟨by simp [State.told, reading, Execution.writes_readOnly]; rfl,
      by simp [State.told, reading], silent⟩
  · change settings.mode = .simulate at simulating
    simp [State.told, simulating]
  · change settings.mode = .apply at applying
    exact history.divergences_of_not_simulate (by simp [applying])

end Playback
