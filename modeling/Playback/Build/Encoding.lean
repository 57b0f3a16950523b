import Playback.Build
import Playback.Edit.Encoding
import Playback.Snapshot.Encoding

namespace Playback.Build

open Json

def toJson (build : Build) : Json :=
  .object
    [("path", .text build.path),
      ("num_tokens", word build.tokens),
      ("finished", .boolean build.finished),
      ("removed", .boolean build.removed),
      ("success", .boolean build.succeeded),
      ("error", optional .text build.error),
      ("before_snapshot", optional Snapshot.toJson build.before),
      ("after_snapshot", optional Snapshot.toJson build.after),
      ("diff", optional Edit.toJson build.edit)]

def form (now : Instant) :
    Form [String, UInt64, Bool, Bool, Bool, Option String, Option Snapshot, Option Snapshot,
      Option Edit] :=
  .field "path" .text (.filled "") <|
  .field "num_tokens" (.word64 "u64") (.filled 0) <|
  .field "finished" .boolean (.filled false) <|
  .field "removed" .boolean (.filled false) <|
  .field "success" .boolean (.filled false) <|
  .field "error" (.optional .text) (.filled none) <|
  .field "before_snapshot" (.optional (Snapshot.reader now)) (.filled none) <|
  .field "after_snapshot" (.optional (Snapshot.reader now)) (.filled none) <|
  .field "diff" (.optional Edit.reader) (.filled none) <|
  .done

def reader (now : Instant) : Reader Build :=
  ((form now).reader "struct BuildInfo").map
    fun (path, tokens, finished, removed, succeeded, error, before, after, edit, ()) =>
      ⟨path, tokens, finished, removed, succeeded, error, before, after, edit⟩

end Playback.Build
