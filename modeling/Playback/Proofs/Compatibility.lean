import Playback.Proofs.Json.Members
import Playback.Proofs.Restoring
import Playback.Proofs.Verdict

namespace Playback

open Json

namespace Edition

/-- The document of an edition is read from its text. -/
theorem run_texts (edition : Edition) :
    Edition.reader.run edition.toJson.compact = .ok edition ∧
      Edition.reader.run edition.toJson.pretty = .ok edition := by
  have clear : AllNumbers Number.Clear edition.toJson := allNumbers_text edition.text
  obtain ⟨compact, pretty⟩ := Document.ofText_texts clear
  rw [Reader.run_of_document compact, Reader.run_of_document pretty]
  exact ⟨edition.reader_toJson _, edition.reader_toJson _⟩

end Edition

namespace Journal

variable {journal again : Journal} {now : Instant} {room : Nat} {text : String}

/-- The edition is read from its own member, whatever becomes of the other members. -/
theorem edition_of_reader (found : Journal.reader now room journal.toJson.document = .ok again) :
    again.edition = journal.edition := by
  obtain ⟨values, taken, same⟩ := map_eq_ok.mp found
  have known : "version" ∈ (form now).names := by
    simp [form, Form.names]
  obtain ⟨left, _, reads⟩ : ∃ left, room = left + 1 ∧
      (form now).ReadsAt left "version" journal.edition.toJson.document values :=
    Form.readsAt_of_written known (by simp) taken
  obtain ⟨id, edition, progress, prompt, startedAt, completedAt, steps, files, metadata, _⟩ := values
  obtain rfl := same
  have read : Edition.reader left journal.edition.toJson.document = .ok edition := reads
  rw [journal.edition.reader_toJson] at read
  exact (Except.ok.inj read).symm

/-- Both texts of a journal are read as a journal of the same edition, or not at all. -/
theorem edition_of_texts (lawful : AllNumbers Number.Lawful journal.toJson)
    (written : text = journal.toJson.compact ∨ text = journal.savedText)
    (found : Journal.ofText now text = .ok again) : again.edition = journal.edition := by
  obtain ⟨compact, saved⟩ := ofText_texts (clear_of_lawful lawful) now
  rcases written with rfl | rfl
  · rw [compact, mapError_eq_ok_iff] at found
    exact edition_of_reader found
  · rw [saved, mapError_eq_ok_iff] at found
    exact edition_of_reader found

/-- A check refuses an edition for its first part alone, and before all else. -/
theorem check_eq_unreadableEdition_iff {supported found : String} :
    journal.check = .error (.unreadableEdition supported found) ↔
      journal.edition.major ≠ 1 ∧ supported = "1.0.0" ∧ found = journal.edition.text := by
  rw [journal.finds_check]
  constructor
  · rintro ⟨_, _, _, _, violates, _⟩
    cases violates with
    | edition other => exact ⟨other, rfl, rfl⟩
    | recorded _ _ _ _ _ _ _ _ _ mismatches => cases mismatches
    | content _ _ _ _ _ mismatches => cases mismatches
  · rintro ⟨other, rfl, rfl⟩
    exact ⟨[], .edition, _, rfl, .edition other, nofun⟩

end Journal

open Edition in
/-- A text is read as an edition exactly if it has two dots and its parts tell those of the edition.
Otherwise the fault names the whole text, if there are not two dots, or else the leftmost part that is
no word. An edition is read back from its text, and a journal is read back with the edition that it was
written with, so that a check refuses it for its edition exactly if it did so before. -/
theorem editions_of_texts :
    (∀ text : String,
      (∀ edition, ofText text = .ok edition ↔
        text.toList.count '.' = 2 ∧ List.Forall₂ Text.Unsigned (partsOf text) edition.parts) ∧
      (∀ named, ofText text = .error (.component named) ↔
        text.toList.count '.' = 2 ∧ FirstUnread (partsOf text) named.toList) ∧
      ∀ named, ofText text = .error (.format named) ↔
        text.toList.count '.' ≠ 2 ∧ named = text) ∧
    (∀ edition : Edition, ofText edition.text = .ok edition ∧
      Edition.reader.run edition.toJson.compact = .ok edition ∧
      Edition.reader.run edition.toJson.pretty = .ok edition) ∧
    ∀ (journal : Journal) (now : Instant), AllNumbers Number.Lawful journal.toJson →
      (journal.Regular → journal.isReadable = true → ∃ again,
        Journal.ofText now journal.toJson.compact = .ok again ∧
          Journal.ofText now journal.savedText = .ok again) ∧
      ∀ text again, text = journal.toJson.compact ∨ text = journal.savedText →
        Journal.ofText now text = .ok again →
          again.edition = journal.edition ∧
          (∀ reader : Edition, reader.reads again.edition = true ↔
            reader.major = journal.edition.major) ∧
          ∀ supported found, again.check = .error (.unreadableEdition supported found) ↔
            journal.check = .error (.unreadableEdition supported found) := by
  refine ⟨fun text => ⟨fun edition => ofText_eq_ok_iff, fun named => ofText_eq_component_iff,
    fun named => ofText_eq_format_iff⟩, fun edition => ⟨edition.ofText_text, edition.run_texts⟩,
    fun journal now lawful => ⟨fun regular readable => ?_, fun text again written found => ?_⟩⟩
  · exact ⟨journal.restored,
      Journal.ofText_restored regular readable (Journal.clear_of_lawful lawful) now⟩
  · have same := Journal.edition_of_texts lawful written found
    refine ⟨same, fun reader => ?_, fun supported found => ?_⟩
    · rw [same, reads, beq_iff_eq]
    · rw [Journal.check_eq_unreadableEdition_iff, Journal.check_eq_unreadableEdition_iff, same]

/-- A journal of a later edition. -/
def Journal.later : Journal :=
  { Journal.start .epoch "journal" with
    edition := ⟨2, 0, 18446744073709551615⟩
    progress := .completed }

open Edition in
/-- Signs and leading zeros are read. An empty part comes before the letter that is no digit and the
number that is too large. -/
theorem editions_of_unusualTexts :
    ofText "+01.002.18446744073709551615" = .ok ⟨1, 2, 18446744073709551615⟩ ∧
      ofText "1..x" = .error (.component "") ∧
      ofText "18446744073709551616.-1.0" = .error (.component "18446744073709551616") ∧
      ofText "1.2" = .error (.format "1.2") ∧
      ∃ again, Journal.ofText .epoch Journal.later.savedText = .ok again ∧
        again.edition = Journal.later.edition ∧
        again.check = .error (.unreadableEdition "1.0.0" "2.0.18446744073709551615") := by
  obtain ⟨texts, _, journals⟩ := editions_of_texts
  refine ⟨?_, ?_, ?_, ?_, ?_⟩
  · refine ((texts _).1 _).mpr ⟨by decide +kernel, ?_⟩
    have split : partsOf "+01.002.18446744073709551615" =
        [['+', '0', '1'], ['0', '0', '2'], "18446744073709551615".toList] := by
      decide +kernel
    rw [split]
    exact .cons (Text.word?_eq_some_iff.mp (by decide +kernel)) <|
      .cons (Text.word?_eq_some_iff.mp (by decide +kernel)) <|
      .cons (Text.word?_eq_some_iff.mp (by decide +kernel)) .nil
  · refine ((texts _).2.1 _).mpr ⟨by decide +kernel, ?_⟩
    have split : partsOf "1..x" = [['1'], [], ['x']] := by
      decide +kernel
    rw [split]
    exact .later (by decide +kernel) (.here (by decide +kernel))
  · refine ((texts _).2.1 _).mpr ⟨by decide +kernel, ?_⟩
    have split : partsOf "18446744073709551616.-1.0" =
        ["18446744073709551616".toList, ['-', '1'], ['0']] := by
      decide +kernel
    rw [split]
    exact .here (by decide +kernel)
  · exact ((texts _).2.2 _).mpr ⟨by decide +kernel, rfl⟩
  · have lawful : AllNumbers Number.Lawful Journal.later.toJson := by
      decide +kernel
    obtain ⟨reads, same⟩ := journals .later .epoch lawful
    have regular : Journal.later.Regular := ⟨List.forall_mem_nil _, List.forall_mem_nil _⟩
    obtain ⟨again, _, found⟩ := reads regular (by decide +kernel)
    obtain ⟨edition, _, refused⟩ := same _ again (.inr rfl) found
    exact ⟨again, found, edition, (refused _ _).mpr (by decide +kernel)⟩

end Playback
