import Playback.Proofs.Harmless
import Playback.Proofs.Rejection

namespace Playback

/-- The kinds of steps whose build is taken over. -/
def StepKind.isBuild : StepKind → Bool
  | .buildStart | .buildComplete | .buildError => true
  | _ => false

/-- What a step records as gone: the file of a removal, the file of a build that is flagged as a
removal, or the file that was absent after a build. -/
inductive Step.Removes (step : Step) : String → Prop where
  | file (path : String) (kind : step.kind = .fileRemove) (touched : step.path? = some path) :
      Removes step path
  | flagged (build : Build) (kind : step.kind.isBuild = true) (built : step.build = some build)
      (succeeded : build.succeeded = true) (removed : build.removed = true) :
      Removes step build.path
  | absent (build : Build) (after : Snapshot) (kind : step.kind.isBuild = true)
      (built : step.build = some build) (succeeded : build.succeeded = true)
      (left : build.after = some after) (gone : after.present = false) : Removes step build.path

/-- The removals that a replay keeps. -/
inductive Step.Drops (step : Step) : String → Prop where
  | file (path : String) (kind : step.kind = .fileRemove) (touched : step.path? = some path) :
      Drops step path
  | build (build : Build) (after : Snapshot) (builds : step.Builds build after)
      (removed : build.removed = true) : Drops step build.path

/-- What becomes of a removal in a turn of a player. -/
inductive Step.Removal (step : Step) (path : String) (player : Player) (state : State) : Prop where
  | kept (drops : step.Drops path)
      (tracked : state.tracked? path = some (.missing player.now path))
      (applied : player.settings.mode = .apply → state.applied = player.state.applied ++ [path])
  | overruled (build : Build) (after : Snapshot) (builds : step.Builds build after)
      (own : build.path = path) (unflagged : build.removed = false) (gone : after.present = false)
      (tracked : state.tracked? path = some { after with path := path, present := true })
      (applied : player.settings.mode = .apply → state.applied = player.state.applied ++ [path])
  | lost (build : Build) (kind : step.kind.isBuild = true) (built : step.build = some build)
      (own : build.path = path) (flagged : build.removed = true) (unrecorded : build.after = none)
      (files : state.files = player.state.files) (applied : state.applied = player.state.applied)

namespace Step

variable {step : Step} {mode : Mode} {now : Instant} {path : String} {build : Build}
  {after : Snapshot}

theorem builds_of_isBuild (kind : step.kind.isBuild = true) (built : step.build = some build)
    (succeeded : build.succeeded = true) (left : build.after = some after) :
    step.Builds build after := by
  refine ⟨?_, built, succeeded, left⟩
  cases same : step.kind <;> simp [same, StepKind.isBuild] at kind ⊢

/-- A removal that is kept leaves a missing file behind. -/
theorem write?_of_drops (drops : step.Drops path) (acting : mode ≠ .readOnly) :
    step.write? mode now = some (path, .missing now path) := by
  cases drops with
  | file path kind touched =>
      rw [write?_of_not_edit now (by simp [kind]) acting, fileWrite?, kind]
      simp [touched]
  | build build after builds removed =>
      rw [write?_of_builds builds acting, builtSnapshot, if_pos removed]

/-- The file of a build that is not flagged counts as present. -/
theorem write?_of_unflagged (builds : step.Builds build after) (acting : mode ≠ .readOnly)
    (unflagged : build.removed = false) :
    step.write? mode now =
      some (build.path, { after with path := build.path, present := true }) := by
  rw [write?_of_builds builds acting, builtSnapshot, if_neg (by simp [unflagged])]

/-- A build without a recorded file leaves nothing behind. -/
theorem write?_of_unrecorded (kind : step.kind.isBuild = true) (built : step.build = some build)
    (unrecorded : build.after = none) : step.write? mode now = none := by
  have nothing : build.write? now = none := by
    simp [Build.write?, unrecorded]
  cases mode <;> cases same : step.kind <;>
    simp [same, StepKind.isBuild, write?, editWrite?, fileWrite?, built, nothing] at kind ⊢

end Step

section Turn

variable {player after : Player} {outcome : Outcome} {step : Step} {path : String}
  {snapshot : Snapshot}

/-- A turn that replays a step tracks the file that it leaves behind, and application notes it. -/
theorem Turn.tracked_of_write (turn : Turn player (.ok outcome) after)
    (found : player.journal.step? player.state.cursor = some step)
    (kept : player.settings.skips.holds player.state.cursor = false)
    (written : step.write? player.settings.mode player.now = some (path, snapshot)) :
    after.state.tracked? path = some snapshot ∧
      (player.settings.mode = .apply → after.state.applied = player.state.applied ++ [path]) := by
  obtain ⟨files, applied⟩ := turn.files_of_write found kept written
  constructor
  · rw [State.tracked?, files, Table.get?_put, if_pos rfl]
  · intro applying
    rw [applied, if_pos applying]

end Turn

/-- Whatever way a removal is recorded in, an accepted turn of a simulation or an application keeps
it, overrules it or loses it. It keeps the removals of files, and those of builds that are flagged and
recorded. -/
theorem removals_of_turn (player after : Player) (step : Step) (outcome : Outcome) (path : String)
    (acting : player.settings.mode ≠ .readOnly)
    (found : player.journal.step? player.state.cursor = some step)
    (kept : player.settings.skips.holds player.state.cursor = false)
    (accepted : player.next = (.ok outcome, after)) (removes : step.Removes path) :
    step.Removal path player after.state ∧
      (step.Drops path → after.state.tracked? path = some (.missing player.now path) ∧
        (player.settings.mode = .apply →
          after.state.applied = player.state.applied ++ [path])) := by
  have turn := player.next_turn
  rw [accepted] at turn
  have keeps {path : String} (drops : step.Drops path) :=
    turn.tracked_of_write found kept (Step.write?_of_drops drops acting)
  refine ⟨?_, keeps⟩
  cases removes with
  | file path kind touched =>
      have drops : step.Drops path := .file path kind touched
      exact .kept drops (keeps drops).1 (keeps drops).2
  | flagged build kind built succeeded removed =>
      cases left : build.after with
      | none =>
          obtain ⟨files, applied⟩ :=
            turn.files_of_still found (Step.write?_of_unrecorded kind built left)
          exact .lost build kind built rfl removed left files applied
      | some after =>
          have builds := Step.builds_of_isBuild kind built succeeded left
          have drops : step.Drops build.path := .build build after builds removed
          exact .kept drops (keeps drops).1 (keeps drops).2
  | absent build after kind built succeeded left gone =>
      have builds := Step.builds_of_isBuild kind built succeeded left
      cases flag : build.removed with
      | true =>
          have drops : step.Drops build.path := .build build after builds flag
          exact .kept drops (keeps drops).1 (keeps drops).2
      | false =>
          obtain ⟨tracked, applied⟩ :=
            turn.tracked_of_write found kept (Step.write?_of_unflagged builds acting flag)
          exact .overruled build after builds rfl flag gone tracked applied

/-- A build that succeeded for the file `a`, with or without the removal flag and a recorded file. -/
def Build.gone (removed : Bool) (after : Option Snapshot) : Build where
  path := "a"
  tokens := 0
  finished := true
  removed := removed
  succeeded := true
  error := none
  before := none
  after := after
  edit := none

/-- A journal of one such build. -/
def Journal.ofBuild (build : Build) : Journal :=
  (Journal.start .epoch "journal").append
    { Step.bare .epoch "build" 0 .buildComplete with build := some build }

/-- A flagged build that recorded its file leaves the file as missing. -/
theorem removals_of_flagged :
    let build := Build.gone true (some (.placeholder .epoch "a"))
    let player := Player.start .epoch (.ofBuild build) (.ofMode .apply)
    ∃ step outcome, player.journal.step? 0 = some step ∧ player.next.1 = .ok outcome ∧
      step.Removes "a" ∧
      player.next.2.state.tracked? "a" = some (.missing .epoch "a") ∧
      player.next.2.state.applied = ["a"] := by
  intro build player
  have removes : Step.Removes ((Journal.ofBuild build).steps[0]) "a" :=
    .flagged build rfl rfl rfl rfl
  have drops : Step.Drops ((Journal.ofBuild build).steps[0]) "a" :=
    .build build _ ⟨.inr (.inl rfl), rfl, rfl, rfl⟩ rfl
  obtain ⟨_, keeps⟩ := removals_of_turn player player.next.2 _ _ "a" nofun rfl rfl rfl removes
  obtain ⟨tracked, applied⟩ := keeps drops
  exact ⟨_, _, rfl, rfl, removes, tracked, applied rfl⟩

/-- A removal of a build is lost if its file is not recorded, and overruled if it is not flagged. -/
theorem removal_lost_of_build :
    let simulated (build : Build) := (Player.start .epoch (.ofBuild build) (.ofMode .simulate)).next
    let flagged := Build.gone true none
    let absent := Build.gone false (some (.missing .epoch "a"))
    (∀ build ∈ [flagged, absent], ∃ step outcome, (Journal.ofBuild build).step? 0 = some step ∧
      step.Removes "a" ∧ (simulated build).1 = .ok outcome) ∧
      (simulated flagged).2.state.tracked? "a" = none ∧
      ((simulated absent).2.state.tracked? "a").map Snapshot.present = some true := by
  intro simulated flagged absent
  refine ⟨fun build member => ?_, rfl, rfl⟩
  simp only [List.mem_cons, List.not_mem_nil, or_false] at member
  rcases member with rfl | rfl
  · exact ⟨_, _, rfl, .flagged flagged rfl rfl rfl rfl, rfl⟩
  · exact ⟨_, _, rfl, .absent absent _ rfl rfl rfl rfl rfl, rfl⟩

end Playback
