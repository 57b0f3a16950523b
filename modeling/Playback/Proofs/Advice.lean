import Playback.Proofs.Lockstep
import Playback.Proofs.Passage

namespace Playback

/-- Pauses are for the driver, and all other operations for the player. -/
def Operation.acts : Operation → Bool
  | .next | .playThrough _ | .playToEnd | .jump _ => true
  | .pause | .resume => false

/-- Settings that differ at most in their advice and in the length of the texts. -/
structure Settings.Akin (settings other : Settings) : Prop where
  mode : settings.mode = other.mode
  first : settings.first = other.first
  last : settings.last = other.last
  skips : settings.skips = other.skips
  stopsAtDivergence : settings.stopsAtDivergence = other.stopsAtDivergence
  verifies : settings.verifies = other.verifies

def Divergence.withoutTexts (divergence : Divergence) : Divergence :=
  { divergence with expected := "", actual := "" }

def Effect.withoutTexts (effect : Effect) : Effect :=
  { effect with divergence := effect.divergence.map Divergence.withoutTexts }

def Outcome.withoutTexts (outcome : Outcome) : Outcome :=
  { outcome with divergence := outcome.divergence.map Divergence.withoutTexts }

/-- Outcomes that differ at most in the texts of their divergences. -/
def Outcome.SameButTexts (outcome other : Outcome) : Prop :=
  outcome.withoutTexts = other.withoutTexts

/-- The settings without advice, under which no text is shown. -/
def Settings.essence (settings : Settings) : Settings :=
  { settings with
    pausesBefore := .empty
    pausesAfter := .empty
    autoAdvance := false
    delay := 0
    limit := 0 }

def State.essence (state : State) : State :=
  { state with
    paused := false
    autoAdvance := false
    delay := 0
    divergences := state.divergences.map Divergence.withoutTexts }

/-- The player without all that is for its driver. -/
def Player.essence (player : Player) : Player :=
  { player with settings := player.settings.essence, state := player.state.essence }

theorem Settings.Akin.essence {settings other : Settings} (akin : settings.Akin other) :
    settings.essence = other.essence := by
  obtain ⟨mode, first, last, skips, stopsAtDivergence, verifies⟩ := akin
  rw [Settings.essence, Settings.essence, mode, first, last, skips, stopsAtDivergence, verifies]

/-- Whether content diverges does not depend on how much of it is shown. -/
theorem Divergence.detect?_withoutTexts (now : Instant) (recorded tracked : Table Snapshot)
    (limit other index : Nat) (path expected : String) :
    (detect? now recorded tracked limit index path expected).map withoutTexts =
      (detect? now recorded tracked other index path expected).map withoutTexts := by
  rw [detect?, detect?]
  split
  · rfl
  · split <;> rfl

theorem Outcome.SameButTexts.hasDivergence {outcome other : Outcome}
    (same : outcome.SameButTexts other) : outcome.hasDivergence = other.hasDivergence := by
  have divergence := congrArg Outcome.hasDivergence same
  simpa only [Outcome.hasDivergence, Outcome.withoutTexts, Option.isSome_map] using divergence

namespace Step

variable (step : Step)

theorem outcome_withoutTexts (effect : Effect) :
    (step.outcome effect).withoutTexts = step.outcome effect.withoutTexts := by
  rw [outcome, outcome]
  split <;> rfl

/-- A step meets a divergence however much of it is shown. -/
theorem divergence?_essence (scene : Scene) :
    (step.divergence? scene).map Divergence.withoutTexts =
      (step.divergence? { scene with settings := scene.settings.essence }).map
        Divergence.withoutTexts := by
  rw [divergence?, divergence?]
  dsimp only [Settings.essence]
  split
  · cases step.comparedEdit? with
    | none => rfl
    | some edit => exact Divergence.detect?_withoutTexts _ _ _ _ _ _ _ _
  · rfl
  · rfl

/-- A step is meant to do the same for the essence of a player. -/
theorem intended_essence (player : Player) :
    (step.intended player.scene).withoutTexts =
      (step.intended player.essence.scene).withoutTexts := by
  rw [Effect.withoutTexts, Effect.withoutTexts, intended, intended]
  exact congrArg (Effect.mk _ _) (step.divergence?_essence player.scene)

end Step

namespace State

variable (state : State) (settings : Settings)

@[simp] theorem essence_essence : state.essence.essence = state.essence := by
  rw [essence, essence, List.map_map]
  rfl

/-- The essence takes an effect without texts into its books. -/
theorem essence_absorb (effect : Effect) :
    (state.absorb settings effect).essence =
      state.essence.absorb settings.essence effect.withoutTexts := by
  rw [essence, absorb, List.map_append, ← Option.toList_map]
  rfl

@[simp] theorem essence_noteSkip (index : Nat) :
    (state.noteSkip index).essence = state.essence.noteSkip index := rfl

/-- Only the place of the cursor remains of a move. -/
@[simp] theorem essence_advance :
    (state.advance settings).essence = { state.essence with cursor := state.cursor + 1 } := rfl

/-- Nothing remains of a pause. -/
@[simp] theorem essence_pauseIf (condition : Bool) :
    (state.pauseIf condition).essence = state.essence := rfl

end State

namespace Player

@[simp] theorem essence_essence (player : Player) : player.essence.essence = player.essence := by
  rw [essence, essence, State.essence_essence]
  rfl

/-- The state is all that changes. -/
theorem essence_withState (player : Player) {state other : State}
    (same : state.essence = other.essence) :
    (player.withState state).essence = (player.essence.withState other).essence :=
  congrArg player.essence.withState same

/-- A turn of the essence is the turn of the player, but for the texts. -/
theorem next_essence (player : Player) :
    player.next.1.map Outcome.withoutTexts = player.essence.next.1.map Outcome.withoutTexts ∧
      player.next.2.essence = player.essence.next.2.essence := by
  have turn := player.next_turn
  generalize player.next = taken at turn ⊢
  obtain ⟨result, after⟩ := taken
  dsimp only at turn ⊢
  have state := player.state.essence_essence
  cases turn with
  | exhausted finished =>
      rw [(@Turn.exhausted player.essence finished).next]
      exact ⟨rfl, player.essence_essence.symm⟩
  | skipped step found skip =>
      rw [(@Turn.skipped player.essence step found skip).next]
      refine ⟨rfl, player.essence_withState ?_⟩
      rw [State.essence_advance, State.essence_advance, State.essence_noteSkip,
        State.essence_noteSkip, essence, State.essence_essence]
      rfl
  | rejected step found kept rejection refused =>
      rw [(@Turn.rejected player.essence step found kept rejection refused).next]
      refine ⟨rfl, player.essence_withState ?_⟩
      rw [State.essence_advance, State.essence_advance, essence, State.essence_essence]
      rfl
  | replayed step found kept accepted =>
      rw [(@Turn.replayed player.essence step found kept accepted).next]
      have same := step.intended_essence player
      constructor
      · change Except.ok (step.outcome _).withoutTexts = Except.ok (step.outcome _).withoutTexts
        rw [step.outcome_withoutTexts, step.outcome_withoutTexts, same]
      · refine player.essence_withState ?_
        rw [State.essence_pauseIf, State.essence_pauseIf, State.essence_advance,
          State.essence_advance, State.essence_absorb, State.essence_absorb, same, essence,
          State.essence_essence]
        rfl

/-- A player starts with what its settings are in essence. -/
theorem essence_start (now : Instant) (journal : Journal) (settings : Settings) :
    (start now journal settings).essence = (start now journal settings.essence).essence := rfl

/-- Players of one essence are in lockstep. -/
theorem lockstep_essence :
    Lockstep Outcome.SameButTexts fun player other => player.essence = other.essence where
  cursor same := congrArg (fun essence => essence.state.cursor) same
  length same := congrArg (fun essence => essence.journal.length) same
  last same := congrArg (fun essence => essence.settings.last) same
  stops {player other outcome another} same alike := by
    have stops : player.settings.stopsAtDivergence = other.settings.stopsAtDivergence :=
      congrArg (fun essence => essence.settings.stopsAtDivergence) same
    rw [alike.hasDivergence, stops]
  next {player other} same := by
    obtain ⟨result, after⟩ := player.next_essence
    obtain ⟨result', after'⟩ := other.next_essence
    rw [same] at result after
    exact ⟨Returned.alike_of_map (result.trans result'.symm), after.trans after'.symm⟩
  moveTo same index :=
    congrArg (fun essence => essence.withState { essence.state with cursor := index }) same
  pause same := same
  resume same := same

/-- Without the pauses a run leaves a player of the same essence. -/
theorem run_acts {player other : Player} (same : player.essence = other.essence)
    (operations : List Operation) :
    (player.run operations).essence = (other.run (operations.filter Operation.acts)).essence := by
  induction operations generalizing player other with
  | nil => exact same
  | cons operation rest inductionHypothesis =>
      cases operation with
      | next | playThrough | playToEnd | jump =>
          exact inductionHypothesis (lockstep_essence.perform same _).2
      | pause => exact inductionHypothesis same
      | resume => exact inductionHypothesis same

end Player

/-- Under settings that differ in their advice and in the length of the texts, two replays that
perform the same operations between any pauses hand back the same and stand in the same state, but for
the pauses and the texts of the divergences. -/
theorem advice_of_run (now : Instant) (journal : Journal) (settings another : Settings)
    (akin : settings.Akin another) (first second : List Operation)
    (same : first.filter Operation.acts = second.filter Operation.acts) :
    let player := (Player.start now journal settings).run first
    let other := (Player.start now journal another).run second
    player.state.cursor = other.state.cursor ∧ player.state.files = other.state.files ∧
      player.state.applied = other.state.applied ∧ player.state.skipped = other.state.skipped ∧
      player.state.divergences.map Divergence.withoutTexts =
        other.state.divergences.map Divergence.withoutTexts ∧
      ∀ operation, Returned.Alike Outcome.SameButTexts
        (player.perform operation).1 (other.perform operation).1 := by
  intro player other
  have start : (Player.start now journal settings).essence =
      (Player.start now journal another).essence := by
    rw [Player.essence_start, akin.essence, ← Player.essence_start]
  have together : player.essence = other.essence := by
    have left := Player.run_acts start first
    have right := Player.run_acts (Eq.refl (Player.start now journal another).essence) second
    rw [← same] at right
    exact left.trans right.symm
  have state : player.state.essence = other.state.essence := congrArg Player.state together
  obtain ⟨_, _, cursor, _, _, _, files, divergences, applied, skipped⟩ := State.mk.inj state
  exact ⟨cursor, files, applied, skipped, divergences,
    fun operation => (Player.lockstep_essence.perform together operation).1⟩

/-- A simulation under other advice and with shorter texts, paused and resumed on the way, meets the
same divergence and tells of it in other words. -/
theorem advice_of_editedTooLate :
    let settings := Settings.ofMode .simulate
    let another := ((settings.withLimit 2).pauseBefore 1).withAutoAdvance 5
    let first := [Operation.playThrough 0, .playToEnd]
    let second := [Operation.pause, .playThrough 0, .resume, .playToEnd, .pause]
    let player := (Player.start .epoch .editedTooLate settings).run first
    let other := (Player.start .epoch .editedTooLate another).run second
    settings.Akin another ∧ first.filter Operation.acts = second.filter Operation.acts ∧
      player.state.paused = false ∧ other.state.paused = true ∧
      player.state.divergences.map Divergence.expected = ["old"] ∧
      other.state.divergences.map Divergence.expected = ["..."] ∧
      player.state.cursor = other.state.cursor ∧ player.state.files = other.state.files ∧
      player.state.divergences.map Divergence.withoutTexts =
        other.state.divergences.map Divergence.withoutTexts := by
  have akin : (Settings.ofMode .simulate).Akin
      ((((Settings.ofMode .simulate).withLimit 2).pauseBefore 1).withAutoAdvance 5) :=
    ⟨rfl, rfl, rfl, rfl, rfl, rfl⟩
  obtain ⟨cursor, files, _, _, divergences, _⟩ := advice_of_run .epoch .editedTooLate _ _ akin
    [.playThrough 0, .playToEnd] [.pause, .playThrough 0, .resume, .playToEnd, .pause] rfl
  exact ⟨akin, rfl, by decide +kernel, by decide +kernel, by decide +kernel, by decide +kernel,
    cursor, files, divergences⟩

end Playback
