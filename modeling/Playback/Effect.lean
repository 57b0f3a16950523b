import Playback.Outcome
import Playback.Settings

namespace Playback

/-- Why a step cannot be replayed. -/
inductive Rejection where
  | emptyPath
  | badSnapshot (cause : Fault)
deriving DecidableEq

def Rejection.message : Rejection → String
  | .emptyPath => "file step has an empty path"
  | .badSnapshot cause => cause.message

/-- The edits are shown, the snapshot is tracked and the divergence is recorded. -/
structure Effect where
  edits : List Edit
  tracked : Option Snapshot
  divergence : Option Divergence
deriving DecidableEq

namespace Effect

def none : Effect := ⟨[], .none, .none⟩

/-- The edits are shown and nothing else happens. -/
def shown (edits : List Edit) : Effect := ⟨edits, .none, .none⟩

def tracking (edits : List Edit) (snapshot : Snapshot) : Effect := ⟨edits, some snapshot, .none⟩

end Effect

/-- What a step needs to know besides itself. -/
structure Scene where
  settings : Settings
  now : Instant
  recorded : Table Snapshot
  tracked : Table Snapshot
  index : Nat

namespace Step

def requirePath (path : String) : Except Rejection Unit :=
  if path.isEmpty then .error .emptyPath else .ok ()

/-- Simulation compares the content before the edit, and only application takes the one after. -/
def diffEffect (step : Step) (scene : Scene) : Except Rejection Effect :=
  match step.edit with
  | none => .ok .none
  | some edit =>
      match scene.settings.mode with
      | .readOnly => .ok (.shown [edit])
      | .simulate => do
          requirePath edit.path
          return ⟨[edit], none,
            Divergence.detect? scene.now scene.recorded scene.tracked scene.settings.limit.toNat
              scene.index edit.path edit.before⟩
      | .apply => do
          requirePath edit.path
          return .tracking [edit] (.ofContent scene.now edit.path edit.after)

/-- The written content, from the edit or from the snapshot after the build. -/
def writtenContent? (step : Step) : Option String :=
  (step.edit.map Edit.after).or
    ((step.build.bind Build.after).bind Snapshot.content)

def writtenSnapshot (step : Step) (now : Instant) (path : String) : Snapshot :=
  match step.writtenContent? with
  | some content => .ofContent now path content
  | none => .placeholder now path

/-- Writing and removing track a snapshot of the path that the step touches. -/
def fileEffect (step : Step) (scene : Scene) (snapshot : String → Snapshot) :
    Except Rejection Effect :=
  let edits := step.edit.toList
  if scene.settings.mode = .readOnly then .ok (.shown edits)
  else
    match step.path? with
    | none => .ok (.shown edits)
    | some path => do
        requirePath path
        return .tracking edits (snapshot path)

def requireSnapshot (settings : Settings) (snapshot : Snapshot) : Except Rejection Unit :=
  if settings.verifies then snapshot.verify.mapError .badSnapshot else .ok ()

/-- The file after a build is the one that was recorded, under the path of the build. -/
def builtSnapshot (build : Build) (now : Instant) (after : Snapshot) : Snapshot :=
  if build.removed then .missing now build.path
  else { after with path := build.path, present := true }

/-- Only a build that succeeded and recorded its file tracks one. -/
def buildEffect (step : Step) (scene : Scene) : Except Rejection Effect :=
  match step.build with
  | none => .ok .none
  | some build =>
      let edits := build.edit.toList
      if scene.settings.mode = .readOnly ∨ build.succeeded = false then .ok (.shown edits)
      else
        match build.after with
        | none => .ok (.shown edits)
        | some after => do
            requirePath build.path
            requireSnapshot scene.settings after
            return .tracking edits (builtSnapshot build scene.now after)

/-- Only steps on files have an effect. -/
def effect (step : Step) (scene : Scene) : Except Rejection Effect :=
  match step.kind with
  | .fileDiff => step.diffEffect scene
  | .fileWrite => step.fileEffect scene (step.writtenSnapshot scene.now)
  | .fileRemove => step.fileEffect scene (.missing scene.now)
  | .buildStart | .buildComplete | .buildError => step.buildEffect scene
  | _ => .ok .none

/-- The outcome of a step that is replayed with an effect. -/
def outcome (step : Step) (effect : Effect) : Outcome :=
  match step.kind with
  | .error => ⟨.failed, step, effect.edits, effect.divergence, step.error⟩
  | _ => ⟨.completed, step, effect.edits, effect.divergence, none⟩

end Step

end Playback
