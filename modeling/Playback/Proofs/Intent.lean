import Playback.Effect

namespace Playback

namespace Build

/-- A successful build leaves the recorded file under its own path. -/
def write? (build : Build) (now : Instant) : Option (String × Snapshot) :=
  if build.succeeded then
    build.after.map fun after =>
      (build.path,
        if build.removed then .missing now build.path
        else { after with path := build.path, present := true })
  else none

/-- A successful build needs a path for its file, and a file that agrees with its digest if that
is verified. -/
def defect? (build : Build) (verifies : Bool) : Option Rejection :=
  if build.succeeded then
    build.after.bind fun after =>
      if build.path = "" then some .emptyPath
      else
        match verifies, after.verify with
        | true, .error cause => some (.badSnapshot cause)
        | _, _ => none
  else none

end Build

namespace Step

/-- The edits that belong to a step are shown in every mode. -/
def shownEdits (step : Step) : List Edit :=
  match step.kind with
  | .fileDiff | .fileWrite | .fileRemove => step.edit.toList
  | .buildStart | .buildComplete | .buildError => (step.build.bind Build.edit).toList
  | _ => []

/-- The content of a written file is that of the edit, or else that of the build, if one is
recorded. -/
def writtenFile (step : Step) (now : Instant) (path : String) : Snapshot :=
  match step.edit with
  | some edit => .ofContent now path edit.after
  | none =>
      match (step.build.bind Build.after).bind Snapshot.content with
      | some content => .ofContent now path content
      | none => .placeholder now path

/-- Writes, removals and successful builds leave a file under their path. -/
def fileWrite? (step : Step) (now : Instant) : Option (String × Snapshot) :=
  match step.kind with
  | .fileWrite => step.path?.map fun path => (path, step.writtenFile now path)
  | .fileRemove => step.path?.map fun path => (path, .missing now path)
  | .buildStart | .buildComplete | .buildError => step.build.bind fun build => build.write? now
  | _ => none

/-- An edit leaves the content after it under its path. -/
def editWrite? (step : Step) (now : Instant) : Option (String × Snapshot) :=
  match step.kind with
  | .fileDiff => step.edit.map fun edit => (edit.path, .ofContent now edit.path edit.after)
  | _ => none

/-- Reading takes nothing over, simulation leaves out the edits, and application takes all. -/
def write? (step : Step) (mode : Mode) (now : Instant) : Option (String × Snapshot) :=
  match mode with
  | .readOnly => none
  | .simulate => step.fileWrite? now
  | .apply => (step.editWrite? now).or (step.fileWrite? now)

/-- The edit of a step that is about an edit. -/
def comparedEdit? (step : Step) : Option Edit :=
  match step.kind with
  | .fileDiff => step.edit
  | _ => none

/-- Only simulation compares the content before an edit with what is known. -/
def divergence? (step : Step) (scene : Scene) : Option Divergence :=
  match scene.settings.mode with
  | .simulate =>
      step.comparedEdit?.bind fun edit =>
        Divergence.detect? scene.now scene.recorded scene.tracked scene.settings.limit.toNat
          scene.index edit.path edit.before
  | .readOnly | .apply => none

/-- What is wrong with a step that works on a file. -/
def defect? (step : Step) (verifies : Bool) : Option Rejection :=
  match step.kind with
  | .fileDiff => step.edit.bind fun edit => if edit.path = "" then some .emptyPath else none
  | .fileWrite | .fileRemove =>
      step.path?.bind fun path => if path = "" then some .emptyPath else none
  | .buildStart | .buildComplete | .buildError =>
      step.build.bind fun build => build.defect? verifies
  | _ => none

/-- Reading overlooks the defects of the steps. -/
def refusal? (step : Step) (settings : Settings) : Option Rejection :=
  if settings.mode = .readOnly then none else step.defect? settings.verifies

/-- The effect that a step has unless it is rejected. -/
def intended (step : Step) (scene : Scene) : Effect where
  edits := step.shownEdits
  tracked := (step.write? scene.settings.mode scene.now).map Prod.snd
  divergence := step.divergence? scene

/-- A step is rejected for a reason, and otherwise it has its effect. -/
def verdict (step : Step) (scene : Scene) : Except Rejection Effect :=
  match step.refusal? scene.settings with
  | some rejection => .error rejection
  | none => .ok (step.intended scene)

/-- Only steps on an edit tell simulation and application apart. -/
theorem write?_of_not_edit {step : Step} {mode : Mode} (now : Instant)
    (kind : step.kind ≠ .fileDiff) (acting : mode ≠ .readOnly) :
    step.write? mode now = step.fileWrite? now := by
  have noEdit : step.editWrite? now = none := by
    rw [editWrite?]
    split
    · contradiction
    · rfl
  cases mode with
  | readOnly => contradiction
  | simulate => rfl
  | apply => rw [write?, noEdit, Option.none_or]

theorem divergence?_of_not_edit {step : Step} (scene : Scene) (kind : step.kind ≠ .fileDiff) :
    step.divergence? scene = none := by
  have noEdit : step.comparedEdit? = none := by
    rw [comparedEdit?]
    split
    · contradiction
    · rfl
  rw [divergence?, noEdit]
  split <;> rfl

/-- A step on a build that succeeded and recorded a file. -/
structure Builds (step : Step) (build : Build) (after : Snapshot) : Prop where
  kind : step.kind = .buildStart ∨ step.kind = .buildComplete ∨ step.kind = .buildError
  built : step.build = some build
  succeeded : build.succeeded = true
  left : build.after = some after

/-- A file is left behind with a known content, as a placeholder, as missing, or as a build recorded
it. -/
inductive Leaves (step : Step) (now : Instant) : String × Snapshot → Prop where
  | content (path content : String) : Leaves step now (path, .ofContent now path content)
  | placeholder (path : String) : Leaves step now (path, .placeholder now path)
  | missing (path : String) : Leaves step now (path, .missing now path)
  | built (build : Build) (after : Snapshot) (builds : step.Builds build after) :
      Leaves step now (build.path, { after with path := build.path, present := true })

variable {step : Step} {now : Instant} {write : String × Snapshot}

theorem leaves_writtenFile (step : Step) (now : Instant) (path : String) :
    step.Leaves now (path, step.writtenFile now path) := by
  rw [writtenFile]
  split
  · exact .content path _
  · split
    · exact .content path _
    · exact .placeholder path

theorem leaves_of_build {build : Build}
    (kind : step.kind = .buildStart ∨ step.kind = .buildComplete ∨ step.kind = .buildError)
    (built : step.build = some build) (written : build.write? now = some write) :
    step.Leaves now write := by
  rw [Build.write?] at written
  split at written
  · rename_i succeeded
    obtain ⟨after, left, rfl⟩ := Option.map_eq_some_iff.mp written
    split
    · exact .missing build.path
    · exact .built build after ⟨kind, built, succeeded, left⟩
  · contradiction

theorem leaves_of_fileWrite (written : step.fileWrite? now = some write) :
    step.Leaves now write := by
  cases kind : step.kind with
  | fileWrite =>
      rw [fileWrite?, kind] at written
      obtain ⟨path, _, rfl⟩ := Option.map_eq_some_iff.mp written
      exact step.leaves_writtenFile now path
  | fileRemove =>
      rw [fileWrite?, kind] at written
      obtain ⟨path, _, rfl⟩ := Option.map_eq_some_iff.mp written
      exact .missing path
  | buildStart | buildComplete | buildError =>
      rw [fileWrite?, kind] at written
      obtain ⟨build, built, left⟩ := Option.bind_eq_some_iff.mp written
      exact leaves_of_build (by simp [kind]) built left
  | _ =>
      rw [fileWrite?, kind] at written
      contradiction

theorem leaves_of_editWrite (written : step.editWrite? now = some write) :
    step.Leaves now write := by
  rw [editWrite?] at written
  split at written
  · obtain ⟨edit, _, rfl⟩ := Option.map_eq_some_iff.mp written
    exact .content edit.path edit.after
  · contradiction

/-- Whatever the mode, a write is one of the files that the step leaves behind. -/
theorem leaves_of_write {mode : Mode} (written : step.write? mode now = some write) :
    step.Leaves now write := by
  cases mode with
  | readOnly => contradiction
  | simulate => exact leaves_of_fileWrite written
  | apply =>
      rcases Option.or_eq_some_iff.mp written with edited | ⟨_, written⟩
      · exact leaves_of_editWrite edited
      · exact leaves_of_fileWrite written

/-- The path of a write is the path of its file. -/
theorem Leaves.path (left : step.Leaves now write) : write.2.path = write.1 := by
  cases left <;> rfl

theorem write?_path {mode : Mode} (written : step.write? mode now = some write) :
    write.2.path = write.1 :=
  (leaves_of_write written).path

end Step

end Playback
