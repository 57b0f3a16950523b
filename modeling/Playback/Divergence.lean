import Playback.Snapshot
import Playback.Table
import Playback.Text.Shortened

namespace Playback

namespace Divergence

inductive Kind where
  | contentMismatch
deriving DecidableEq

namespace Kind

def name : Kind → String
  | .contentMismatch => "content_mismatch"

def choices : List (String × Kind) := [("content_mismatch", .contentMismatch)]

end Kind

end Divergence

/-- The index is the position of the step that met the divergence. -/
structure Divergence where
  index : Nat
  kind : Divergence.Kind
  description : String
  expected : String
  actual : String
  detectedAt : Instant
deriving DecidableEq

/-- What is known about a path comes from the replay itself or from the start of the recording. -/
inductive Evidence where
  | tracked (snapshot : Snapshot)
  | recorded (snapshot : Snapshot)
deriving DecidableEq

namespace Evidence

/-- The replay's own knowledge comes first. -/
def of? (recorded tracked : Table Snapshot) (path : String) : Option Evidence :=
  ((tracked.get? path).map .tracked).or ((recorded.get? path).map .recorded)

def snapshot : Evidence → Snapshot
  | .tracked snapshot => snapshot
  | .recorded snapshot => snapshot

def description (path : String) : Evidence → String
  | .tracked snapshot =>
      if snapshot.present then "File content differs: " ++ path
      else "File was removed earlier in the replay: " ++ path
  | .recorded snapshot =>
      if snapshot.present then "File content differs from recorded state: " ++ path
      else "File did not exist in recorded state: " ++ path

end Evidence

namespace Divergence

/-- A path about which nothing is known never diverges. -/
def detect? (now : Instant) (recorded tracked : Table Snapshot) (limit index : Nat)
    (path expected : String) : Option Divergence :=
  match Evidence.of? recorded tracked path with
  | none => none
  | some evidence =>
      if evidence.snapshot.hasDigest (Digest.ofText expected) then none
      else
        some
          { index := index
            kind := .contentMismatch
            description := evidence.description path
            expected := Text.shorten limit expected
            actual := Text.shorten limit (evidence.snapshot.content.getD "")
            detectedAt := now }

end Divergence

end Playback
