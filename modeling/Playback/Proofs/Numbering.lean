import Playback.Journal.Encoding
import Playback.Proofs.Account
import Playback.Proofs.Check
import Playback.Proofs.Json.Readers

namespace Playback

/-- Every step is numbered by its position. -/
def Journal.Numbered (journal : Journal) : Prop :=
  ∀ index step, journal.step? index = some step → step.number = index

/-- In every replay of the journal the numbers of the outcomes and of their divergences are the
positions of the steps. -/
def Journal.ToldByPosition (journal : Journal) (now : Instant) : Prop :=
  ∀ settings operations, ∀ execution ∈ (Player.start now journal settings).executions operations,
    execution.outcome.number = execution.index ∧
      ∀ divergence, execution.outcome.divergence = some divergence →
        divergence.index = execution.outcome.number

/-- An outcome belongs to the step at its position, and so does its divergence. -/
structure Execution.Placed (journal : Journal) (execution : Execution) : Prop where
  step : journal.step? execution.index = some execution.outcome.step
  divergence : ∀ divergence, execution.outcome.divergence = some divergence →
    divergence.index = execution.index

/-- A journal loads if it is read and passes the check. -/
theorem Journal.load_eq_ok_iff {now : Instant} {text : String} {journal : Journal} :
    load now text = .ok journal ↔ ofText now text = .ok journal ∧ journal.check = .ok () := by
  rw [load]
  constructor
  · intro loaded
    split at loaded
    · contradiction
    · rename_i read
      split at loaded
      · contradiction
      · rename_i checked
        obtain rfl := Except.ok.inj loaded
        exact ⟨read, checked⟩
  · rintro ⟨read, checked⟩
    rw [read]
    dsimp only
    rw [checked]

/-- In a checked journal a number belongs to one position. -/
theorem Journal.position_of_number {journal : Journal} {first second : Nat} {step other : Step}
    (checked : journal.check = .ok ()) (found : journal.step? first = some step)
    (found' : journal.step? second = some other) (same : step.number = other.number) :
    first = second := by
  obtain ⟨_, distinct, _, _⟩ := (check_ok_iff journal).mp checked
  have number : (journal.steps.map Step.number)[first]? = some step.number := by
    rw [List.getElem?_map, ← step?, found, Option.map_some]
  have number' : (journal.steps.map Step.number)[second]? = some step.number := by
    rw [List.getElem?_map, ← step?, found', Option.map_some, same]
  have inside : first < (journal.steps.map Step.number).length := by
    rw [List.length_map]
    exact lt_length_of_step found
  exact (List.getElem?_inj inside distinct).mp (number.trans number'.symm)

/-- A divergence keeps the position that it was detected at. -/
theorem Divergence.detect?_index {now : Instant} {recorded tracked : Table Snapshot}
    {limit index : Nat} {path expected : String} {divergence : Divergence}
    (met : detect? now recorded tracked limit index path expected = some divergence) :
    divergence.index = index := by
  rw [detect?] at met
  split at met
  · contradiction
  · split at met
    · contradiction
    · rw [← Option.some.inj met]

theorem Step.divergence?_index {step : Step} {scene : Scene} {divergence : Divergence}
    (met : step.divergence? scene = some divergence) : divergence.index = scene.index := by
  rw [divergence?] at met
  split at met
  · obtain ⟨edit, _, met⟩ := Option.bind_eq_some_iff.mp met
    exact Divergence.detect?_index met
  · contradiction
  · contradiction

/-- A divergence is recorded at the position of the step that met it. -/
theorem Execution.Told.divergence_index {now : Instant} {journal : Journal} {settings : Settings}
    {earlier : List Execution} {execution : Execution} {divergence : Divergence}
    (told : execution.Told now journal settings earlier)
    (met : execution.outcome.divergence = some divergence) :
    divergence.index = execution.index := by
  cases told with
  | skipped index step found skip => contradiction
  | replayed index step found kept accepted =>
      rw [Step.outcome_divergence] at met
      exact Step.divergence?_index met

/-- A player that only reads and skips nothing hands out an outcome of every step. -/
theorem Player.next_of_reading {player : Player} {step : Step}
    (reading : player.settings = .standard)
    (found : player.journal.step? player.state.cursor = some step) :
    ∃ outcome after, outcome.step = step ∧ player.next = (.ok outcome, after) := by
  have kept : player.settings.skips.holds player.state.cursor = false := by
    rw [reading]
    rfl
  have accepted : step.refusal? player.settings = none := by
    rw [reading]
    exact if_pos rfl
  exact ⟨_, _, step.outcome_step _, (Turn.replayed step found kept accepted).next⟩

/-- Such a player reaches every step by a jump. -/
theorem Player.executions_of_jump (now : Instant) {journal : Journal} {index : Nat} {step : Step}
    (found : journal.step? index = some step) :
    ∃ outcome, outcome.step = step ∧
      (Player.start now journal .standard).executions [.jump index, .next] =
        [⟨index, outcome⟩] := by
  have inside : index < journal.length := Journal.lt_length_of_step found
  let start := Player.start now journal .standard
  let moved := start.withState (start.state.moveTo .standard index)
  have jumped : start.jump index = (.ok (), moved) := if_pos inside
  obtain ⟨outcome, after, own, taken⟩ := moved.next_of_reading rfl found
  refine ⟨outcome, own, ?_⟩
  rw [Player.executions, Player.perform, jumped]
  change moved.executions [.next] = _
  rw [Player.executions, Player.perform, taken]
  rfl

/-- The outcomes of every replay are placed. -/
theorem Player.placed_of_executions {now : Instant} {journal : Journal} {settings : Settings}
    {operations : List Operation} {execution : Execution}
    (member : execution ∈ (Player.start now journal settings).executions operations) :
    execution.Placed journal := by
  have history := (Player.start now journal settings).history_run operations
  obtain ⟨earlier, _, told⟩ := history.exists_told member
  exact ⟨told.step, fun divergence => told.divergence_index⟩

/-- The replays of a journal tell positions exactly if its steps are numbered by them. -/
theorem Journal.toldByPosition_iff (journal : Journal) (now : Instant) :
    journal.ToldByPosition now ↔ journal.Numbered := by
  constructor
  · intro positions index step found
    obtain ⟨outcome, rfl, executions⟩ := Player.executions_of_jump now found
    have member : (⟨index, outcome⟩ : Execution) ∈
        (Player.start now journal .standard).executions [.jump index, .next] := by
      rw [executions]
      exact List.mem_singleton_self _
    exact (positions .standard _ _ member).1
  · intro numbered settings operations execution member
    have placed := Player.placed_of_executions member
    have number : execution.outcome.number = execution.index := numbered _ _ placed.step
    refine ⟨number, fun divergence met => ?_⟩
    rw [number]
    exact placed.divergence divergence met

/-- A replay of a loaded journal hands out the outcomes of the steps at their positions, under recorded
numbers that no two steps share. The numbers are the positions exactly if they were recorded so. -/
theorem numbers_of_loaded (now : Instant) (text : String) (journal : Journal)
    (loaded : Journal.load now text = .ok journal) :
    (∀ settings operations,
      let past := (Player.start now journal settings).executions operations
      ∀ execution ∈ past, execution.Placed journal ∧
        ∀ other ∈ past, execution.outcome.number = other.outcome.number →
          execution.index = other.index) ∧
      (journal.ToldByPosition now ↔ journal.Numbered) := by
  have checked := (Journal.load_eq_ok_iff.mp loaded).2
  constructor
  · intro settings operations past execution member
    have placed := Player.placed_of_executions member
    refine ⟨placed, fun other within same => ?_⟩
    exact Journal.position_of_number checked placed.step
      (Player.placed_of_executions within).step same
  · exact journal.toldByPosition_iff now

/-- A journal in which a file is removed and then edited, with the numbers of both steps swapped. -/
def Journal.swapped : Journal :=
  { Journal.start .epoch "journal" with
    progress := .completed
    steps :=
      [{ Step.bare .epoch "removal" 1 .fileRemove with edit := some (.between "a" "" "") },
        { Step.bare .epoch "edit" 0 .fileDiff with edit := some (.between "a" "" "") }] }

open Json in
def Journal.swappedText : String :=
  let step (id : String) (number : Nat) (kind : String) : Json :=
    .object
      [("id", .text id), ("step_number", natural number), ("type", .text kind),
        ("file_diff", .object [("path", .text "a")])]
  (Json.object
    [("id", .text "journal"),
      ("steps", .list [step "removal" 1 "file_remove", step "edit" 0 "file_diff"])]).compact

theorem Journal.load_swapped : load .epoch swappedText = .ok swapped :=
  Json.eq_ok_of_toOption (by decide +kernel)

/-- The simulation of that journal tells numbers that are no positions, and the position of the
divergence is the number of the other step. -/
theorem numbers_of_swapped :
    let past := (Player.start .epoch .swapped (.ofMode .simulate)).executions [.playToEnd]
    Journal.load .epoch Journal.swappedText = .ok .swapped ∧
      past.map Execution.index = [0, 1] ∧
      past.map (fun execution => execution.outcome.number) = [1, 0] ∧
      (past.filterMap fun execution => execution.outcome.divergence).map Divergence.index = [1] ∧
      ∀ execution ∈ past, execution.Placed .swapped := by
  intro past
  obtain ⟨told, _⟩ := numbers_of_loaded .epoch _ .swapped Journal.load_swapped
  exact ⟨Journal.load_swapped, rfl, rfl, rfl,
    fun execution member => (told (.ofMode .simulate) [.playToEnd] execution member).1⟩

/-- A journal that loads need not tell positions. -/
theorem not_toldByPosition_of_swapped :
    Journal.load .epoch Journal.swappedText = .ok .swapped ∧
      ¬ Journal.swapped.ToldByPosition .epoch := by
  refine ⟨Journal.load_swapped, fun positions => ?_⟩
  have numbered := (Journal.swapped.toldByPosition_iff .epoch).mp positions
  have first : (1 : Nat) = 0 := numbered 0 _ rfl
  contradiction

end Playback
