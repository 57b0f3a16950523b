import Playback.Proofs.Rejection
import Playback.Proofs.Soundness

namespace Playback

/-- A tracked file stands under its own path, which is not empty, and a missing one keeps nothing. -/
structure Snapshot.Kept (path : String) (snapshot : Snapshot) : Prop where
  own : path = snapshot.path
  named : path ≠ ""
  bare : snapshot.present = false →
    snapshot.content = none ∧ snapshot.digest = none ∧ snapshot.size = 0

/-- The effective digest of a sound file is the digest of its content. -/
theorem Snapshot.Sound.effectiveDigest {snapshot : Snapshot} {content : String}
    (sound : snapshot.Sound) (kept : snapshot.content = some content) :
    snapshot.effectiveDigest = some (Digest.ofText content) := by
  rw [Snapshot.effectiveDigest, sound content kept, Option.some_or]

/-- A build that would leave a file without a path is defective. -/
theorem Build.defect?_of_unnamed {build : Build} {now : Instant} {snapshot : Snapshot}
    (verifies : Bool) (written : build.write? now = some ("", snapshot)) :
    build.defect? verifies = some .emptyPath := by
  rw [write?] at written
  split at written
  · rename_i succeeded
    obtain ⟨after, left, same⟩ := Option.map_eq_some_iff.mp written
    have empty : build.path = "" := congrArg Prod.fst same
    exact defect?_eq_some_iff.mpr ⟨succeeded, after, left, .inl ⟨empty, rfl⟩⟩
  · contradiction

namespace Step

variable {step : Step} {now : Instant} {write : String × Snapshot} {settings : Settings}

/-- Only a missing file is left behind as absent, because a recorded file counts as present. -/
theorem Leaves.bare (leaves : step.Leaves now write) (absent : write.2.present = false) :
    write.2.content = none ∧ write.2.digest = none ∧ write.2.size = 0 := by
  cases leaves with
  | content path content => contradiction
  | placeholder path => contradiction
  | missing path => exact ⟨rfl, rfl, rfl⟩
  | built build after builds => contradiction

/-- A write, a removal or a build without a path is defective. -/
theorem defect?_of_unnamed {snapshot : Snapshot} (verifies : Bool)
    (written : step.fileWrite? now = some ("", snapshot)) :
    step.defect? verifies = some .emptyPath := by
  cases kind : step.kind with
  | fileWrite | fileRemove =>
      rw [fileWrite?, kind] at written
      obtain ⟨path, touched, same⟩ := Option.map_eq_some_iff.mp written
      have empty : path = "" := congrArg Prod.fst same
      simp [defect?, kind, touched, empty]
  | buildStart | buildComplete | buildError =>
      rw [fileWrite?, kind] at written
      obtain ⟨build, built, left⟩ := Option.bind_eq_some_iff.mp written
      simp [defect?, kind, built, Build.defect?_of_unnamed verifies left]
  | _ =>
      rw [fileWrite?, kind] at written
      contradiction

/-- An edit without a path is defective. -/
theorem defect?_of_unnamed_edit {snapshot : Snapshot} (verifies : Bool)
    (written : step.editWrite? now = some ("", snapshot)) :
    step.defect? verifies = some .emptyPath := by
  rw [editWrite?] at written
  split at written
  · rename_i kind
    obtain ⟨edit, edited, same⟩ := Option.map_eq_some_iff.mp written
    have empty : edit.path = "" := congrArg Prod.fst same
    simp [defect?, kind, edited, empty]
  · contradiction

/-- A step that is not refused leaves no file behind without a path. -/
theorem named_of_accepted (accepted : step.refusal? settings = none)
    (written : step.write? settings.mode now = some write) : write.1 ≠ "" := by
  rintro empty
  obtain ⟨path, snapshot⟩ := write
  obtain rfl : path = "" := empty
  rw [refusal?] at accepted
  cases mode : settings.mode with
  | readOnly =>
      rw [mode] at written
      contradiction
  | simulate =>
      rw [mode] at written accepted
      have defect := defect?_of_unnamed settings.verifies written
      simp [defect] at accepted
  | apply =>
      rw [mode] at written accepted
      rcases Option.or_eq_some_iff.mp written with edited | ⟨_, written⟩
      · have defect := defect?_of_unnamed_edit settings.verifies edited
        simp [defect] at accepted
      · have defect := defect?_of_unnamed settings.verifies written
        simp [defect] at accepted

/-- A step that is not refused leaves a file behind that may be tracked. -/
theorem kept_of_accepted (accepted : step.refusal? settings = none)
    (written : step.write? settings.mode now = some write) : write.2.Kept write.1 where
  own := (write?_path written).symm
  named := named_of_accepted accepted written
  bare := (leaves_of_write written).bare

/-- A replay that verifies takes over a recorded file only if it is sound. -/
theorem sound_of_verified {build : Build} {after : Snapshot} (acting : settings.mode ≠ .readOnly)
    (verified : settings.verifies = true) (accepted : step.refusal? settings = none)
    (builds : step.Builds build after) : after.Sound := by
  have faultless (rejection : Rejection) : ¬ step.Defective settings.verifies rejection := by
    intro defective
    have refused := refusal?_eq_some_iff.mpr ⟨acting, defective⟩
    rw [accepted] at refused
    contradiction
  obtain ⟨kind, built, succeeded, left⟩ := builds
  by_cases empty : build.path = ""
  · exact absurd (.buildPath build after kind built succeeded left empty) (faultless .emptyPath)
  · cases verdict : after.verify with
    | ok passed => exact after.verify_ok_iff.mp verdict
    | error cause =>
        have defective : step.Defective settings.verifies (.badSnapshot cause) :=
          .buildFile build after cause kind built succeeded left empty verified verdict
        exact absurd defective (faultless _)

/-- What an accepted step leaves behind is sound, by the check of the journal or by that of the
replay. -/
theorem sound_of_accepted {journal : Journal} (member : step ∈ journal.steps)
    (guarded : settings.verifies = true ∨ journal.check = .ok ())
    (accepted : step.refusal? settings = none)
    (written : step.write? settings.mode now = some write) : write.2.Sound := by
  have acting : settings.mode ≠ .readOnly := by
    intro reading
    rw [reading] at written
    contradiction
  apply (leaves_of_write written).sound
  intro build after builds
  rcases guarded with verified | checked
  · exact sound_of_verified acting verified accepted builds
  · exact Journal.sound_of_after checked member builds.built builds.left

end Step

/-- An execution that leaves a file behind replays a step of the journal that is not refused. -/
theorem Execution.Told.accepted_of_write {now : Instant} {journal : Journal} {settings : Settings}
    {earlier : List Execution} {execution : Execution} {write : String × Snapshot}
    (told : execution.Told now journal settings earlier)
    (written : execution.outcome.write? settings.mode now = some write) :
    ∃ step ∈ journal.steps, step.refusal? settings = none ∧
      step.write? settings.mode now = some write := by
  cases told with
  | skipped index step found skip => contradiction
  | replayed index step found kept accepted =>
      rw [Step.outcome_write?] at written
      exact ⟨step, List.mem_of_getElem? found, accepted, written⟩

/-- Each tracked file was left behind by a step of the journal that is not refused. -/
theorem History.accepted_of_tracked {now : Instant} {journal : Journal} {settings : Settings}
    {past : List Execution} {player : Player} {entry : String × Snapshot}
    (history : History (Player.start now journal settings) past player)
    (tracked : entry ∈ player.state.files.entries) :
    ∃ step ∈ journal.steps, step.refusal? settings = none ∧
      step.write? settings.mode now = some entry := by
  rw [history.files_told] at tracked
  have member := Table.mem_of_mem_ofList tracked
  obtain ⟨execution, within, written⟩ := List.mem_filterMap.mp member
  obtain ⟨earlier, _, told⟩ := history.exists_told within
  exact told.accepted_of_write written

/-- In every state of a run each tracked file stands under its own path and keeps nothing if it is
missing, and it agrees with its digest if anything guards it. -/
theorem tracked_of_run (now : Instant) (journal : Journal) (settings : Settings)
    (operations : List Operation) (entry : String × Snapshot)
    (tracked : entry ∈ ((Player.start now journal settings).run operations).state.files.entries) :
    entry.2.Kept entry.1 ∧
      (settings.verifies = true ∨ journal.check = .ok () →
        entry.2.verify = .ok () ∧
          ∀ content, entry.2.content = some content →
            entry.2.effectiveDigest = some (Digest.ofText content)) := by
  have history := (Player.start now journal settings).history_run operations
  obtain ⟨step, member, accepted, written⟩ := history.accepted_of_tracked tracked
  refine ⟨Step.kept_of_accepted accepted written, fun guarded => ?_⟩
  have sound := Step.sound_of_accepted member guarded accepted written
  exact ⟨entry.2.verify_ok_iff.mpr sound, fun content => sound.effectiveDigest⟩

/-- A journal in which a build leaves a file that was recorded under another path as missing. -/
def Journal.misrecorded : Journal :=
  (Journal.start .epoch "journal").append
    { Step.bare .epoch "build" 0 .buildComplete with
      build := some
        { path := "a"
          tokens := 0
          finished := true
          removed := false
          succeeded := true
          error := none
          before := none
          after := some { Snapshot.ofContent .epoch "b" "text" with present := false }
          edit := none } }

/-- The file of that build is tracked under the path of the build, as a file that is present. -/
theorem tracked_of_misrecorded :
    let settings := Settings.ofMode .simulate
    let file := Snapshot.ofContent .epoch "a" "text"
    ("a", file) ∈
        ((Player.start .epoch .misrecorded settings).run [.next]).state.files.entries ∧
      settings.verifies = true ∧ file.Kept "a" ∧ file.verify = .ok () ∧
      file.effectiveDigest = some (Digest.ofText "text") := by
  intro settings file
  have tracked : ("a", file) ∈
      ((Player.start .epoch .misrecorded settings).run [.next]).state.files.entries := by
    decide +kernel
  obtain ⟨kept, guarded⟩ := tracked_of_run .epoch .misrecorded settings [.next] ("a", file) tracked
  obtain ⟨verified, digest⟩ := guarded (.inl rfl)
  exact ⟨tracked, rfl, kept, verified, digest "text" rfl⟩

end Playback
