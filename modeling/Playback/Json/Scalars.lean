import Playback.Digest
import Playback.Edition
import Playback.IndexSet
import Playback.Instant.Reading
import Playback.Json.Form
import Playback.Json.Reader.Value
import Playback.Table

namespace Playback

open Json

namespace Digest

def toJson (digest : Digest) : Json := .text digest.hex

def reader : Reader Digest :=
  Reader.text.refine fun text => (ofHex text).mapError HexFault.message

end Digest

namespace Edition

def toJson (edition : Edition) : Json := .text edition.text

def reader : Reader Edition :=
  Reader.text.refine fun text => (ofText text).mapError Fault.message

end Edition

namespace Instant

def toJson (instant : Instant) : Json := .text instant.text

def reader : Reader Instant :=
  (Reader.textAs "an RFC 3339 formatted date and time string").refine fun text =>
    (ofText text).mapError Fault.message

end Instant

namespace Table

def toJson {A : Type} (write : A → Json) (table : Table A) : Json :=
  .object (table.entries.map fun entry => (entry.1, write entry.2))

/-- A member that is left out when the table is empty. -/
def givenJson {A : Type} (name : String) (write : A → Json) (table : Table A) :
    List (String × Json) :=
  if table.isEmpty then [] else [(name, table.toJson write)]

def reader {A : Type} (read : Reader A) : Reader (Table A) := (Reader.entries read).map ofList

end Table

namespace IndexSet

def toJson (set : IndexSet) : Json := Json.listOf Json.word set.indices

def reader : Reader IndexSet := (Reader.list (Reader.word64 "usize")).map ofList

end IndexSet

end Playback
