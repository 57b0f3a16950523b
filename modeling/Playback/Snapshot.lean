import Playback.Fault
import Playback.Instant

namespace Playback

/-- A snapshot may keep the content of the file, its digest, both or neither. -/
structure Snapshot where
  path : String
  content : Option String
  digest : Option Digest
  size : UInt64
  present : Bool
  capturedAt : Instant
deriving DecidableEq

namespace Snapshot

def ofContent (now : Instant) (path content : String) : Snapshot :=
  ⟨path, some content, some (Digest.ofText content), UInt64.ofNat content.utf8ByteSize, true, now⟩

/-- The content of a file that is only known to exist is stood for by the digest of its path. -/
def placeholder (now : Instant) (path : String) : Snapshot :=
  ⟨path, none, some (Digest.ofText path), 0, true, now⟩

def missing (now : Instant) (path : String) : Snapshot :=
  ⟨path, none, none, 0, false, now⟩

/-- A recorded digest comes before the digest of the content. -/
def effectiveDigest (snapshot : Snapshot) : Option Digest :=
  snapshot.digest.or (snapshot.content.map Digest.ofText)

def hasDigest (snapshot : Snapshot) (digest : Digest) : Bool :=
  snapshot.effectiveDigest == some digest

/-- A content must come with its own digest. -/
def verify (snapshot : Snapshot) : Except Fault Unit :=
  match snapshot.content with
  | none => .ok ()
  | some content =>
      let actual := Digest.ofText content
      if snapshot.digest = some actual then .ok ()
      else
        .error (.digestMismatch snapshot.path ((snapshot.digest.map Digest.hex).getD "")
          actual.hex)

end Snapshot

end Playback
