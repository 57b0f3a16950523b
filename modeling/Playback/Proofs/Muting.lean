import Playback.Proofs.Account
import Playback.Proofs.Lockstep
import Playback.Proofs.Rejection

namespace Playback

/-- A prompt in the place of the step, with the payload of the step. -/
def Step.muted (step : Step) : Step := { step with kind := .userPrompt }

/-- The steps at some positions are prompts. -/
def Journal.muted (journal : Journal) (positions : IndexSet) : Journal :=
  { journal with
    steps := journal.steps.mapIdx fun index step =>
      if positions.holds index then step.muted else step }

def Settings.keepingAll (settings : Settings) : Settings := { settings with skips := .empty }

/-- No step that is skipped is one to pause after. -/
def Settings.SkipsQuietly (settings : Settings) : Prop :=
  ∀ index, settings.skips.holds index = true → settings.pausesAfter.holds index = false

/-- What is handed out for a prompt in the place of a skipped step. -/
def Outcome.muted (outcome : Outcome) : Outcome :=
  match outcome.status with
  | .skipped => { outcome with status := .completed, step := outcome.step.muted }
  | .completed | .failed => outcome

/-- A state is another one without its skips. Only a pause after a prompt can be added to it. -/
structure State.Muted (settings : Settings) (state muted : State) : Prop where
  same : muted = { state with skipped := [], paused := muted.paused }
  pauses : state.paused = true → muted.paused = true
  quiet : settings.SkipsQuietly → muted.paused = state.paused

/-- One player skips the steps that are prompts for the other one. -/
structure Mutes (player muted : Player) : Prop where
  journal : muted.journal = player.journal.muted player.settings.skips
  settings : muted.settings = player.settings.keepingAll
  now : muted.now = player.now
  state : player.state.Muted player.settings muted.state

namespace Journal

variable {journal : Journal} {positions : IndexSet} {index : Nat} {step : Step}

@[simp] theorem length_muted (journal : Journal) (positions : IndexSet) :
    (journal.muted positions).length = journal.length :=
  List.length_mapIdx

theorem step?_muted (journal : Journal) (positions : IndexSet) (index : Nat) :
    (journal.muted positions).step? index =
      (journal.step? index).map fun step => if positions.holds index then step.muted else step :=
  List.getElem?_mapIdx

theorem step?_muted_of_holds (found : journal.step? index = some step)
    (held : positions.holds index = true) :
    (journal.muted positions).step? index = some step.muted := by
  simp [step?_muted, found, held]

theorem step?_muted_of_kept (found : journal.step? index = some step)
    (kept : positions.holds index = false) :
    (journal.muted positions).step? index = some step := by
  simp [step?_muted, found, kept]

end Journal

namespace Step

/-- A prompt is never refused. -/
theorem refusal?_muted (step : Step) (settings : Settings) : step.muted.refusal? settings = none :=
  ite_self none

/-- A prompt does nothing, whatever it carries. -/
theorem intended_muted (step : Step) (scene : Scene) : step.muted.intended scene = .none := by
  cases mode : scene.settings.mode <;>
    simp [intended, muted, shownEdits, write?, editWrite?, fileWrite?, divergence?, comparedEdit?,
      mode, Effect.none]

/-- The outcome of a prompt is that of a skip but for the status and the kind of the step. -/
theorem outcome_muted_none (step : Step) :
    step.muted.outcome .none = (Outcome.skipped step).muted := rfl

/-- The outcome of a replayed step stays as it is. -/
theorem outcome_muted (step : Step) (effect : Effect) :
    (step.outcome effect).muted = step.outcome effect := by
  rw [outcome]
  split <;> rfl

end Step

theorem Outcome.hasDivergence_muted (outcome : Outcome) :
    outcome.muted.hasDivergence = outcome.hasDivergence := by
  rw [muted]
  split <;> rfl

theorem State.absorb_none (state : State) (settings : Settings) :
    state.absorb settings .none = state := by
  simp [absorb, Effect.none]

namespace State.Muted

variable {settings : Settings} {state muted : State} (related : state.Muted settings muted)
include related

theorem noteSkip (index : Nat) : (state.noteSkip index).Muted settings muted where
  same := related.same
  pauses := related.pauses
  quiet := related.quiet

/-- Both may pause at a step that is kept. -/
theorem pauseIf (condition : Bool) :
    (state.pauseIf condition).Muted settings (muted.pauseIf condition) where
  same := by
    rw [State.pauseIf, State.pauseIf, related.same]
  pauses paused := by
    rcases Bool.or_eq_true_iff.mp paused with earlier | here
    · exact Bool.or_eq_true_iff.mpr (.inl (related.pauses earlier))
    · exact Bool.or_eq_true_iff.mpr (.inr here)
  quiet quiet := by
    change (muted.paused || condition) = (state.paused || condition)
    rw [related.quiet quiet]

/-- Only the other one pauses after a step that is skipped. -/
theorem pauseIf_right {condition : Bool} (silent : settings.SkipsQuietly → condition = false) :
    state.Muted settings (muted.pauseIf condition) where
  same := by
    rw [State.pauseIf, related.same]
  pauses paused := Bool.or_eq_true_iff.mpr (.inl (related.pauses paused))
  quiet quiet := by
    change (muted.paused || condition) = state.paused
    rw [silent quiet, Bool.or_false, related.quiet quiet]

theorem moveTo (index : Nat) :
    (state.moveTo settings index).Muted settings (muted.moveTo settings.keepingAll index) where
  same := by
    rw [State.moveTo, State.moveTo, related.same]
  pauses := (related.pauseIf (settings.pausesBefore.holds index)).pauses
  quiet := (related.pauseIf (settings.pausesBefore.holds index)).quiet

theorem cursor : muted.cursor = state.cursor := by
  rw [related.same]

theorem advance : (state.advance settings).Muted settings (muted.advance settings.keepingAll) := by
  rw [State.advance, State.advance, related.cursor]
  exact related.moveTo (state.cursor + 1)

theorem absorb (effect : Effect) :
    (state.absorb settings effect).Muted settings (muted.absorb settings.keepingAll effect) where
  same := by
    rw [State.absorb, State.absorb, related.same]
    rfl
  pauses := related.pauses
  quiet := related.quiet

end State.Muted

namespace Mutes

variable {player muted : Player}

theorem withState (mutes : Mutes player muted) {state other : State}
    (related : state.Muted player.settings other) :
    Mutes (player.withState state) (muted.withState other) where
  journal := mutes.journal
  settings := mutes.settings
  now := mutes.now
  state := related

/-- The other player keeps every step. -/
theorem keeps (mutes : Mutes player muted) (index : Nat) :
    muted.settings.skips.holds index = false := by
  rw [mutes.settings]
  rfl

theorem step?_of_kept (mutes : Mutes player muted) {step : Step}
    (found : player.journal.step? player.state.cursor = some step)
    (kept : player.settings.skips.holds player.state.cursor = false) :
    muted.journal.step? muted.state.cursor = some step := by
  rw [mutes.journal, mutes.state.cursor]
  exact Journal.step?_muted_of_kept found kept

/-- A turn on a skipped step is a turn on a prompt, and every other turn is the same. -/
theorem next (mutes : Mutes player muted) :
    Returned.Alike (fun outcome other => other = outcome.muted)
        (.outcome player.next.1) (.outcome muted.next.1) ∧
      Mutes player.next.2 muted.next.2 := by
  have turn := player.next_turn
  generalize player.next = taken at turn ⊢
  obtain ⟨result, after⟩ := taken
  dsimp only at turn ⊢
  have related := mutes.state
  have cursor := related.cursor
  have journal := mutes.journal
  have settings := mutes.settings
  cases turn with
  | exhausted finished =>
      have absent : muted.journal.step? muted.state.cursor = none := by
        rw [journal, cursor, Journal.step?_muted, finished, Option.map_none]
      rw [(Turn.exhausted absent).next, journal, Journal.length_muted]
      exact ⟨.fault _, mutes⟩
  | skipped step found skip =>
      have prompt : muted.journal.step? muted.state.cursor = some step.muted := by
        rw [journal, cursor]
        exact Journal.step?_muted_of_holds found skip
      -- The prompt is replayed, so it is the other player that may pause after it.
      rw [(Turn.replayed step.muted prompt (mutes.keeps _) (step.refusal?_muted _)).next,
        step.intended_muted, State.absorb_none, settings, cursor]
      refine ⟨.outcome step.outcome_muted_none, mutes.withState ?_⟩
      exact (related.noteSkip _).advance.pauseIf_right fun quiet => quiet _ skip
  | rejected step found kept rejection refused =>
      have same := mutes.step?_of_kept found kept
      have again : step.refusal? muted.settings = some rejection := by
        rw [settings]
        exact refused
      rw [(Turn.rejected step same (mutes.keeps _) rejection again).next, settings, cursor]
      exact ⟨.fault _, mutes.withState related.advance⟩
  | replayed step found kept accepted =>
      have same := mutes.step?_of_kept found kept
      have again : step.refusal? muted.settings = none := by
        rw [settings]
        exact accepted
      have intended : step.intended muted.scene = step.intended player.scene := by
        rw [Player.scene, Player.scene, journal, settings, mutes.now, related.same]
        rfl
      rw [(Turn.replayed step same (mutes.keeps _) again).next, intended, settings, cursor]
      refine ⟨.outcome (step.outcome_muted _).symm, mutes.withState ?_⟩
      exact (related.absorb _).advance.pauseIf _

theorem lockstep : Lockstep (fun outcome other => other = outcome.muted) Mutes where
  cursor mutes := mutes.state.cursor.symm
  length mutes := by rw [mutes.journal, Journal.length_muted]
  last mutes := by
    rw [mutes.settings]
    rfl
  stops mutes same := by
    rw [same, Outcome.hasDivergence_muted, mutes.settings]
    rfl
  next := next
  moveTo mutes index := by
    rw [mutes.settings]
    exact mutes.withState (mutes.state.moveTo index)
  pause mutes := mutes.withState ⟨by rw [mutes.state.same], fun _ => rfl, fun _ => rfl⟩
  resume mutes := mutes.withState ⟨by rw [mutes.state.same], id, fun _ => rfl⟩

theorem start (now : Instant) (journal : Journal) (settings : Settings) :
    Mutes (Player.start now journal settings)
      (Player.start now (journal.muted settings.skips) settings.keepingAll) where
  journal := rfl
  settings := rfl
  now := rfl
  state := by
    have fresh : (State.fresh journal.id settings).Muted settings
        (State.fresh journal.id settings.keepingAll) := ⟨rfl, id, fun _ => rfl⟩
    rw [Player.start, Player.start, Journal.length_muted]
    exact fresh.moveTo _

end Mutes

/-- A replay that skips steps goes through the states of the replay in which these steps are prompts,
but for its skips and the pauses after the prompts. Both hand back the same, where the prompts are told
as completed and the steps in their place as skipped. -/
theorem skips_of_muted (now : Instant) (journal : Journal) (settings : Settings)
    (operations : List Operation) :
    let start := Player.start now journal settings
    let player := start.run operations
    let muted :=
      (Player.start now (journal.muted settings.skips) settings.keepingAll).run operations
    player.state.Muted settings muted.state ∧
      (∀ operation, Returned.Alike (fun outcome other => other = outcome.muted)
        (player.perform operation).1 (muted.perform operation).1) ∧
      ∀ execution ∈ start.executions operations,
        journal.step? execution.index = some execution.outcome.step ∧
          (execution.outcome.status = .skipped ↔
            settings.skips.holds execution.index = true) := by
  intro start player muted
  have mutes : Mutes player muted :=
    Mutes.lockstep.run (Mutes.start now journal settings) operations
  have history := start.history_run operations
  obtain ⟨_, following, _⟩ := history.fixed
  change player.settings = settings at following
  refine ⟨following ▸ mutes.state, fun operation => (Mutes.lockstep.perform mutes operation).1,
    fun execution member => ?_⟩
  obtain ⟨_, _, told⟩ := history.exists_told member
  exact ⟨told.step, told.skipped_iff⟩

/-- A journal of a write without a path, a removal and an edit of the removed file. -/
def Journal.unnamedThenRemoved : Journal :=
  (Journal.unnamed.append
      { Step.bare .epoch "removal" 1 .fileRemove with edit := some (.between "a" "old" "") }).append
    { Step.bare .epoch "edit" 2 .fileDiff with edit := some (.between "a" "old" "new") }

/-- The write is not refused and the removal not noticed by the edit, whether both are skipped or
prompts. -/
theorem skips_of_unnamedThenRemoved :
    let settings := ((Settings.ofMode .simulate).skip 0).skip 1
    let player := Player.start .epoch .unnamedThenRemoved settings
    let muted := Player.start .epoch (Journal.unnamedThenRemoved.muted settings.skips)
      settings.keepingAll
    settings.SkipsQuietly ∧
      player.playToEnd.1.outcomes.map Outcome.status = [.skipped, .skipped, .completed] ∧
      muted.playToEnd.1.outcomes.map Outcome.status = [.completed, .completed, .completed] ∧
      (Returned.passage player.playToEnd.1).Alike (fun outcome other => other = outcome.muted)
        (.passage muted.playToEnd.1) ∧
      muted.playToEnd.2.state = { player.playToEnd.2.state with skipped := [] } := by
  intro settings player muted
  have quiet : settings.SkipsQuietly := fun index _ => rfl
  obtain ⟨_, same, _⟩ := skips_of_muted .epoch .unnamedThenRemoved settings []
  obtain ⟨related, _, _⟩ := skips_of_muted .epoch .unnamedThenRemoved settings [.playToEnd]
  refine ⟨quiet, by decide +kernel, by decide +kernel, same .playToEnd, ?_⟩
  have state := related.same
  rw [related.quiet quiet] at state
  exact state

end Playback
