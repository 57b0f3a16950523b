import Playback.Json.Scalars
import Playback.Snapshot

namespace Playback.Snapshot

open Json

def toJson (snapshot : Snapshot) : Json :=
  .object (
    [("path", .text snapshot.path)] ++
    given "content" .text snapshot.content ++
    given "content_hash" Digest.toJson snapshot.digest ++
    [("size", word snapshot.size),
      ("exists", .boolean snapshot.present),
      ("captured_at", snapshot.capturedAt.toJson)])

def form (now : Instant) :
    Form [String, Option String, Option Digest, UInt64, Bool, Instant] :=
  .field "path" .text .refused <|
  .field "content" (.optional .text) (.filled none) <|
  .field "content_hash" (.optional Digest.reader) (.filled none) <|
  .field "size" (.word64 "u64") (.filled 0) <|
  .field "exists" .boolean (.filled true) <|
  .field "captured_at" Instant.reader (.filled now) <|
  .done

/-- A snapshot without an instant was captured now. -/
def reader (now : Instant) : Reader Snapshot :=
  ((form now).reader "struct ReplayFileSnapshot").map
    fun (path, content, digest, size, present, capturedAt, ()) =>
      ⟨path, content, digest, size, present, capturedAt⟩

end Playback.Snapshot
