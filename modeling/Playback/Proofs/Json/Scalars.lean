import Playback.Journal.Encoding
import Playback.Proofs.Edition
import Playback.Proofs.Instant
import Playback.Proofs.Json.Forms
import Playback.Proofs.Json.Rereading
import Playback.Proofs.Table

namespace Playback

open Json

namespace Json

theorem fits_of_lt {value : Nat} (small : value < UInt64.size) : Numeral.Fits value := by
  have bound : UInt64.size = 2 ^ 64 := rfl
  rw [Numeral.Fits]
  omega

theorem document_natural {value : Nat} (small : value < UInt64.size) :
    (natural value).document = .number (.exact (.integer value)) :=
  Number.document_of_scan (Numeral.scan_integer (fits_of_lt small))

theorem allNumbers_fitting_natural {value : Nat} (small : value < UInt64.size) :
    AllNumbers Number.Fitting (natural value) :=
  allNumbers_number.mpr (fits_of_lt small)

@[simp] theorem allNumbers_fitting_word (value : UInt64) :
    AllNumbers Number.Fitting (word value) :=
  allNumbers_fitting_natural value.toNat_lt_size

namespace Reader

theorem natural_natural {value : Nat} (room : Nat) (expected : String)
    (small : value < UInt64.size) :
    Reader.natural UInt64.size expected room (Json.natural value).document = .ok value :=
  natural_ok room expected small (document_natural small)

theorem word64_word (room : Nat) (expected : String) (value : UInt64) :
    Reader.word64 expected room (word value).document = .ok value := by
  have read := map_ok UInt64.ofNat (natural_natural room expected value.toNat_lt_size)
  rwa [UInt64.ofNat_toNat] at read

theorem word32_natural (room : Nat) (value : UInt32) :
    Reader.word32 room (Json.natural value.toNat).document = .ok value := by
  have small := value.toNat_lt_size
  have below : value.toNat < UInt64.size :=
    Nat.lt_trans small (by decide)
  have read := map_ok UInt32.ofNat (natural_ok room "u32" small (document_natural below))
  rwa [UInt32.ofNat_toNat] at read

end Reader

end Json

namespace Digest

open Text

theorem hexBytes?_hexPairs (bytes : List UInt8) :
    hexBytes? (bytes.flatMap hexPair) = some bytes := by
  induction bytes with
  | nil => rfl
  | cons byte rest inductionHypothesis =>
      have small := byte.toNat_lt_size
      have bound : UInt8.size = 256 := rfl
      have high := (hexDigit_lawful (show byte.toNat / 16 < 16 by omega)).1
      have low := (hexDigit_lawful (show byte.toNat % 16 < 16 by omega)).1
      have whole : 16 * (byte.toNat / 16) + byte.toNat % 16 = byte.toNat := by
        omega
      rw [List.flatMap_cons, hexPair, List.cons_append, List.singleton_append, hexBytes?, high,
        low, inductionHypothesis]
      simp only [whole, UInt8.ofNat_toNat]

/-- A digest is read back from its hexadecimal text. -/
theorem ofHex_hex (digest : Digest) : ofHex digest.hex = .ok digest := by
  have length : digest.bytes.toList.length = 32 := by
    simp
  rw [ofHex, hex, String.toList_ofList, hexBytes?_hexPairs]
  simp only [length, dif_pos]
  rfl

theorem reader_toJson (room : Nat) (digest : Digest) :
    Digest.reader room digest.toJson.document = .ok digest :=
  Reader.refine_ok rfl (by rw [ofHex_hex]; rfl)

end Digest

namespace Edition

theorem reader_toJson (room : Nat) (edition : Edition) :
    Edition.reader room edition.toJson.document = .ok edition :=
  Reader.refine_ok rfl (by rw [ofText_text]; rfl)

end Edition

namespace Instant

theorem reader_toJson (room : Nat) (instant : Instant) :
    Instant.reader room instant.toJson.document = .ok instant :=
  Reader.refine_ok rfl (by rw [ofText_text]; rfl)

end Instant

namespace StepKind

/-- The kind of a name has that name. -/
@[simp] theorem name_ofName (name : String) : (ofName name).name = name := by
  rw [ofName]
  cases found : known.find? fun kind => kind.name == name with
  | none => rfl
  | some kind =>
      have same := List.find?_some found
      exact beq_iff_eq.mp same

end StepKind

namespace Progress

theorem reader_toJson (room : Nat) (progress : Progress) :
    Progress.reader room progress.toJson.document = .ok progress := by
  cases progress <;> rfl

end Progress

namespace Table

variable {A B : Type} {read : Reader A} {write : A → Json} {room : Nat}

/-- A table is read back entry by entry. -/
theorem reader_map {write : B → Json} {back : B → A} {table : Table B}
    (each : ∀ entry ∈ table.entries, read room (write entry.2).document = .ok (back entry.2)) :
    Table.reader read (room + 1) (table.toJson write).document = .ok (table.map back) := by
  have entries : Reader.entries read (room + 1) (table.toJson write).document =
      .ok (table.map back).entries := by
    rw [toJson, Json.document, documentsOfMembers_eq, Reader.entries, Reader.enter,
      Reader.members_map each]
    simp [Reader.flawed, Ending.ofObject, bind, Except.bind, pure, Except.pure, map]
  rw [Table.reader, Reader.map_ok ofList entries, ofList_entries]

theorem reader_toJson {table : Table A}
    (each : ∀ entry ∈ table.entries, read room (write entry.2).document = .ok entry.2) :
    Table.reader read (room + 1) (table.toJson write).document = .ok table := by
  have mapped := @reader_map _ _ _ _ _ id _ each
  rwa [map_of_same fun _ _ => rfl] at mapped

/-- Every entry of a table was read from a part of its document. -/
theorem mem_reader {holds : Token → Prop} {document : Document} {table : Table A}
    (lawful : document.Holds holds) (found : Table.reader read room document = .ok table) :
    ∃ left, room = left + 1 ∧ ∀ entry ∈ table.entries, ∃ part : Document,
      part.Holds holds ∧ read left part = .ok entry.2 := by
  obtain ⟨entries, taken, rfl⟩ := map_eq_ok.mp found
  obtain ⟨left, same, each⟩ := Reader.mem_entries lawful taken
  exact ⟨left, same, fun entry member => each entry (mem_of_mem_ofList member)⟩

/-- A field that is left out with an empty table is read back. -/
theorem writes_givenJson {types : List Type} {name : String} {rest : Form types}
    {write : B → Json} {back : B → A} {table : Table B} {members : List (String × Json)}
    {values : Form.Values types}
    (each : ∀ entry ∈ table.entries, read room (write entry.2).document = .ok (back entry.2))
    (others : Form.Writes (room + 1) rest members values) :
    Form.Writes (room + 1) (.field name (Table.reader read) (.filled .empty) rest)
      (table.givenJson name write ++ members) (table.map back, values) := by
  rw [givenJson]
  split
  · rename_i none
    obtain rfl : table = .empty := by
      cases table
      simpa [isEmpty, empty] using none
    exact .omitted others
  · exact .given (reader_map each) others

@[simp] theorem allNumbers_toJson {holds : Number → Prop} {table : Table A} :
    AllNumbers holds (table.toJson write) ↔
      ∀ entry ∈ table.entries, AllNumbers holds (write entry.2) := by
  simp only [toJson, allNumbers_object, List.forall_mem_map]

@[simp] theorem forall_mem_givenJson {holds : Number → Prop} {name : String} {table : Table A} :
    (∀ member ∈ table.givenJson name write, AllNumbers holds member.2) ↔
      ∀ entry ∈ table.entries, AllNumbers holds (write entry.2) := by
  rw [givenJson]
  split
  · rename_i none
    rw [isEmpty, List.isEmpty_iff] at none
    simp [none]
  · simp

end Table

end Playback
