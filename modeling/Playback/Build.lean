import Playback.Edit
import Playback.Snapshot

namespace Playback

structure Build where
  path : String
  tokens : UInt64
  finished : Bool
  removed : Bool
  succeeded : Bool
  error : Option String
  before : Option Snapshot
  after : Option Snapshot
  edit : Option Edit
deriving DecidableEq

/-- The snapshots of a build in the order of time. -/
def Build.snapshots (build : Build) : List Snapshot := build.before.toList ++ build.after.toList

end Playback
