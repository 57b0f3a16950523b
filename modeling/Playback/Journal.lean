import Playback.Step

namespace Playback

/-- How far the recording of a journal has come. -/
inductive Progress where
  | recording
  | completed
  | failed
  | replaying
  | paused
deriving DecidableEq

namespace Progress

def choices : List (String × Progress) :=
  [("recording", .recording), ("completed", .completed), ("failed", .failed),
    ("replaying", .replaying), ("paused", .paused)]

def name : Progress → String
  | .recording => "recording"
  | .completed => "completed"
  | .failed => "failed"
  | .replaying => "replaying"
  | .paused => "paused"

/-- The label stands in texts for readers. -/
def label : Progress → String
  | .recording => "Recording"
  | .completed => "Completed"
  | .failed => "Failed"
  | .replaying => "Replaying"
  | .paused => "Paused"

end Progress

/-- The files are the snapshots of the workspace at the start of the recording, by path. -/
structure Journal where
  id : String
  edition : Edition
  progress : Progress
  prompt : Option String
  startedAt : Instant
  completedAt : Option Instant
  steps : List Step
  files : Table Snapshot
  metadata : Table Json
deriving DecidableEq

namespace Journal

/-- A fresh identifier is made from a token that no other one has. -/
def freshId (token : String) : String := "sess_" ++ token

def start (now : Instant) (id : String) : Journal where
  id := id
  edition := .current
  progress := .recording
  prompt := none
  startedAt := now
  completedAt := none
  steps := []
  files := .empty
  metadata := .empty

def length (journal : Journal) : Nat := journal.steps.length

/-- The step is numbered by its position. -/
def append (journal : Journal) (step : Step) : Journal :=
  { journal with steps := journal.steps ++ [{ step with number := journal.length }] }

/-- The step keeps its number. -/
def appendNumbered (journal : Journal) (step : Step) : Journal :=
  { journal with steps := journal.steps ++ [step] }

def addFile (journal : Journal) (snapshot : Snapshot) : Journal :=
  { journal with files := journal.files.put snapshot.path snapshot }

def finish (journal : Journal) (now : Instant) (progress : Progress) : Journal :=
  { journal with progress := progress, completedAt := some now }

def step? (journal : Journal) (index : Nat) : Option Step := journal.steps[index]?

def file? (journal : Journal) (path : String) : Option Snapshot := journal.files.get? path

/-- The first snapshot that does not agree with its digest is the fault. -/
def checkSnapshots : List Snapshot → Except Fault Unit
  | [] => .ok ()
  | snapshot :: rest =>
      match snapshot.verify with
      | .error fault => .error fault
      | .ok _ => checkSnapshots rest

/-- No number may come twice, and the snapshots of a step are checked after its number. -/
def checkSteps (seen : List Nat) : List Step → Except Fault Unit
  | [] => .ok ()
  | step :: rest =>
      if step.number ∈ seen then
        .error (.invalid "steps" ("duplicate step number " ++ toString step.number))
      else
        match checkSnapshots ((step.build.map Build.snapshots).getD []) with
        | .error fault => .error fault
        | .ok _ => checkSteps (step.number :: seen) rest

/-- A file stands under its own path and agrees with its digest. -/
def checkFiles : List (String × Snapshot) → Except Fault Unit
  | [] => .ok ()
  | (key, snapshot) :: rest =>
      if key ≠ snapshot.path then
        .error (.invalid "initial_file_snapshots"
          ("snapshot for " ++ snapshot.path ++ " is keyed under " ++ key))
      else
        match snapshot.verify with
        | .error fault => .error fault
        | .ok _ => checkFiles rest

/-- The edition is checked before the steps, and the steps before the files. -/
def check (journal : Journal) : Except Fault Unit :=
  if Edition.current.reads journal.edition then
    match checkSteps [] journal.steps with
    | .error fault => .error fault
    | .ok _ => checkFiles journal.files.entries
  else .error (.unreadableEdition Edition.current.text journal.edition.text)

end Journal

end Playback
