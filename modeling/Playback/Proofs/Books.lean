import Playback.Proofs.History
import Playback.Proofs.Table

namespace Playback

namespace Outcome

/-- The file that the step of an outcome leaves behind. A skipped step leaves none. -/
def write? (mode : Mode) (now : Instant) (outcome : Outcome) : Option (String × Snapshot) :=
  match outcome.status with
  | .skipped => none
  | .completed | .failed => outcome.step.write? mode now

end Outcome

namespace Execution

/-- The files that executions leave behind, in order and with repeats. -/
def writes (mode : Mode) (now : Instant) (past : List Execution) : List (String × Snapshot) :=
  past.filterMap fun execution => execution.outcome.write? mode now

def divergences (past : List Execution) : List Divergence :=
  past.filterMap fun execution => execution.outcome.divergence

/-- The positions of the skipped steps. -/
def skips (past : List Execution) : List Nat :=
  (past.filter fun execution => execution.outcome.status = .skipped).map index

@[simp] theorem writes_append (mode : Mode) (now : Instant) (past more : List Execution) :
    writes mode now (past ++ more) = writes mode now past ++ writes mode now more :=
  List.filterMap_append

@[simp] theorem divergences_append (past more : List Execution) :
    divergences (past ++ more) = divergences past ++ divergences more :=
  List.filterMap_append

@[simp] theorem skips_append (past more : List Execution) :
    skips (past ++ more) = skips past ++ skips more := by
  simp [skips]

@[simp] theorem writes_singleton (mode : Mode) (now : Instant) (execution : Execution) :
    writes mode now [execution] = (execution.outcome.write? mode now).toList := by
  cases written : execution.outcome.write? mode now <;> simp [writes, written]

@[simp] theorem divergences_singleton (execution : Execution) :
    divergences [execution] = execution.outcome.divergence.toList := by
  cases met : execution.outcome.divergence <;> simp [divergences, met]

end Execution

/-- Executions add their files, divergences and skips to the books, and application notes the paths. -/
def State.take (state : State) (mode : Mode) (now : Instant) (more : List Execution) : State :=
  { state with
    files := (Execution.writes mode now more).foldl
      (fun table entry => table.put entry.1 entry.2) state.files
    divergences := state.divergences ++ Execution.divergences more
    applied := state.applied ++
      if mode = .apply then (Execution.writes mode now more).map Prod.fst else []
    skipped := state.skipped ++ Execution.skips more }

theorem State.take_nil (state : State) (mode : Mode) (now : Instant) :
    state.take mode now [] = state := by
  simp [take, Execution.writes, Execution.divergences, Execution.skips]

/-- The state in which a history leaves the books. -/
def State.told (now : Instant) (journal : Journal) (settings : Settings) (past : List Execution)
    (cursor : Nat) (paused : Bool) : State where
  journalId := journal.id
  mode := settings.mode
  cursor := cursor
  paused := paused
  autoAdvance := settings.autoAdvance
  delay := settings.delay
  files := .ofList (Execution.writes settings.mode now past)
  divergences := Execution.divergences past
  applied :=
    if settings.mode = .apply then (Execution.writes settings.mode now past).map Prod.fst else []
  skipped := Execution.skips past

namespace Step

variable (step : Step) (scene : Scene)

@[simp] theorem outcome_step (effect : Effect) : (step.outcome effect).step = step := by
  rw [outcome]
  split <;> rfl

@[simp] theorem outcome_divergence (effect : Effect) :
    (step.outcome effect).divergence = effect.divergence := by
  rw [outcome]
  split <;> rfl

/-- A replayed step is never told as skipped. -/
theorem outcome_status_ne_skipped (effect : Effect) :
    (step.outcome effect).status ≠ .skipped := by
  intro same
  rw [outcome] at same
  split at same <;> contradiction

/-- A replayed step leaves its file behind. -/
@[simp] theorem outcome_write? (mode : Mode) (now : Instant) (effect : Effect) :
    (step.outcome effect).write? mode now = step.write? mode now := by
  rw [Outcome.write?, outcome_step]
  cases status : (step.outcome effect).status with
  | skipped => exact absurd status (step.outcome_status_ne_skipped effect)
  | completed | failed => rfl

end Step

/-- The books take in the intended effect of a step. -/
theorem State.absorb_intended (state : State) (step : Step) (scene : Scene) (index : Nat) :
    state.absorb scene.settings (step.intended scene) =
      state.take scene.settings.mode scene.now [⟨index, step.outcome (step.intended scene)⟩] := by
  have tracked : (step.intended scene).tracked =
      (step.write? scene.settings.mode scene.now).map Prod.snd := rfl
  have noSkip : Execution.skips [⟨index, step.outcome (step.intended scene)⟩] = [] := by
    simp [Execution.skips, step.outcome_status_ne_skipped]
  rw [absorb, take, Execution.writes_singleton, Execution.divergences_singleton,
    Step.outcome_write?, Step.outcome_divergence, noSkip, tracked]
  cases written : step.write? scene.settings.mode scene.now with
  | none => simp
  | some write =>
      have path := Step.write?_path written
      by_cases applying : scene.settings.mode = .apply <;> simp [applying, path]

/-- A jump moves the cursor, may pause and leaves the books alone. -/
theorem Player.jump_state (player : Player) (index : Nat) :
    ∃ cursor paused, (player.jump index).2 =
      player.withState { player.state with cursor := cursor, paused := paused } := by
  rw [jump]
  split
  · exact ⟨_, _, rfl⟩
  · exact ⟨player.state.cursor, player.state.paused, rfl⟩

/-- A turn moves the cursor, may pause and adds its execution to the books. -/
theorem Turn.state {player after : Player} {result : Except PlayFault Outcome}
    (turn : Turn player result after) :
    after.state =
      { player.state.take player.settings.mode player.now
          (Execution.ofResult player.state.cursor result) with
        cursor := after.state.cursor
        paused := after.state.paused } := by
  cases turn with
  | exhausted finished => rw [Execution.ofResult, State.take_nil]
  | skipped step found skip =>
      simp [Player.withState, State.advance, State.moveTo, State.noteSkip, Execution.ofResult,
        State.take, Outcome.write?, Outcome.skipped, Execution.skips]
  | rejected step found kept rejection refused =>
      rw [Execution.ofResult, State.take_nil]
      rfl
  | replayed step found kept accepted =>
      have absorbed : player.state.absorb player.settings (step.intended player.scene) =
          player.state.take player.settings.mode player.now
            [⟨player.state.cursor, step.outcome (step.intended player.scene)⟩] :=
        player.state.absorb_intended step player.scene player.state.cursor
      simp only [Player.withState, State.advance, State.moveTo, State.pauseIf, absorbed]
      rfl

/-- Further executions are told after the earlier ones. -/
theorem State.told_append (now : Instant) (journal : Journal) (settings : Settings)
    (past more : List Execution) (cursor : Nat) (paused : Bool) :
    State.told now journal settings (past ++ more) cursor paused =
      (State.told now journal settings past cursor paused).take settings.mode now more := by
  by_cases applying : settings.mode = .apply <;>
    simp [told, take, applying, Table.ofList_append]

/-- The state of a replay is told by its history. -/
theorem History.told {now : Instant} {journal : Journal} {settings : Settings}
    {past : List Execution} {player : Player}
    (history : History (Player.start now journal settings) past player) :
    player.state =
      State.told now journal settings past player.state.cursor player.state.paused := by
  induction history with
  | start => simp [Player.start, State.fresh, State.moveTo, State.told, Execution.writes,
      Execution.divergences, Execution.skips, Table.ofList]
  | turn history turn inductionHypothesis =>
      obtain ⟨_, following, clock⟩ := history.fixed
      rw [turn.state, following, clock, inductionHypothesis, State.told_append]
      rfl
  | @jump past player history index inductionHypothesis =>
      obtain ⟨cursor, paused, moved⟩ := player.jump_state index
      rw [moved]
      simp only [Player.withState]
      rw [inductionHypothesis]
      rfl
  | pause history inductionHypothesis =>
      simp only [Player.pause, Player.withState]
      rw [inductionHypothesis]
      rfl
  | resume history inductionHypothesis =>
      simp only [Player.resume, Player.withState]
      rw [inductionHypothesis]
      rfl

section Files

variable {now : Instant} {journal : Journal} {settings : Settings} {past : List Execution}
  {player : Player}

/-- The tracked files are those that the history left behind. -/
theorem History.files_told (history : History (Player.start now journal settings) past player) :
    player.state.files = .ofList (Execution.writes settings.mode now past) :=
  congrArg State.files history.told

/-- A path is tracked as the last execution on it left it behind. -/
theorem History.tracked?_told (history : History (Player.start now journal settings) past player)
    (path : String) :
    player.state.tracked? path = Table.last? path (Execution.writes settings.mode now past) := by
  rw [State.tracked?, history.files_told, Table.get?_ofList]

/-- An application notes the path of each file that it leaves behind. -/
theorem History.applied_told (history : History (Player.start now journal settings) past player)
    (applying : settings.mode = .apply) :
    player.state.applied = (Execution.writes settings.mode now past).map Prod.fst := by
  rw [history.told, State.told, if_pos applying]

theorem History.skipped_told (history : History (Player.start now journal settings) past player) :
    player.state.skipped = Execution.skips past :=
  congrArg State.skipped history.told

end Files

end Playback
