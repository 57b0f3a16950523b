import Playback.Proofs.Json.Values

namespace Playback.Json

/-- The single that a written number is read as. -/
def Written.single? : Written → Option Binary.Single
  | .exact (.integer value) => some (Binary.ofInt .single value)
  | .exact (.double value) => some (value.convert .single)
  | .exact (.single value) => some value
  | .tooLarge | .broken _ => none

theorem Reader.single_of_written {written : Written} {value : Binary.Single} (room : Nat)
    (found : written.single? = some value) : Reader.single room (.number written) = .ok value := by
  cases written with
  | exact number => cases number <;> exact congrArg Except.ok (Option.some.inj found)
  | tooLarge => contradiction
  | broken flaw => contradiction

namespace Number

/-- The text of a finite float is read back as the same float. A single is read back through the
double that its text stands for. -/
def Returns : Number → Prop
  | .integer _ => True
  | .double value => value.magnitude.isFinite = true →
      Numeral.scan (Number.double value).text.toList = (.exact (.double value), [])
  | .single value => value.magnitude.isFinite = true →
      (Numeral.scan (Number.single value).text.toList).1.single? = some value ∧
        (Numeral.scan (Number.single value).text.toList).2 = []

instance : DecidablePred Returns
  | .integer _ => .isTrue trivial
  | .double value => inferInstanceAs (Decidable (value.magnitude.isFinite = true → _ = _))
  | .single value => inferInstanceAs (Decidable (value.magnitude.isFinite = true → _ = _ ∧ _ = _))

/-- The text of a finite single is a number that is read as the single. -/
theorem written_of_returns {value : Binary.Single} (returns : (Number.single value).Returns)
    (finite : value.magnitude.isFinite = true) :
    ∃ number, Numeral.scan (Number.single value).text.toList = (.exact number, []) ∧
      ∀ room, Reader.single room (.number (.exact number)) = .ok value := by
  obtain ⟨found, rest⟩ := returns finite
  cases scanned : Numeral.scan (Number.single value).text.toList with
  | mk written after =>
      rw [scanned] at found rest
      obtain rfl : after = [] := rest
      cases written with
      | exact number => exact ⟨number, rfl, fun room => Reader.single_of_written room found⟩
      | tooLarge => contradiction
      | broken flaw => contradiction

/-- An integer of 64 bits or a double. A single may be any. -/
def Fitting : Number → Prop
  | .integer value => Numeral.Fits value
  | .double value => value.magnitude.Lawful .double
  | .single _ => True

theorem Numeric.fitting {number : Number} (numeric : number.Numeric) : number.Fitting := by
  obtain ⟨numeral, found⟩ := numeric
  cases number with
  | integer value => exact Numeral.fits_of_number? found
  | double value => exact Numeral.lawful_of_number? found
  | single value => trivial

/-- A number that is scanned as a number is no null. -/
theorem document_of_scan {number same : Number}
    (scanned : Numeral.scan number.text.toList = (.exact same, [])) :
    number.document = .number (.exact same) := by
  have finite : number.text ≠ "null" := by
    intro null
    rw [null] at scanned
    have broken : Numeral.scan "null".toList = (.broken .badNumber, []) := rfl
    rw [broken] at scanned
    cases scanned
  rw [document, if_neg finite, scanned]

theorem text_of_infinite {precision : Precision} {style : Decimal.Style} {value : Binary precision}
    (infinite : value.magnitude.isFinite = false) : value.decimal? style = none := by
  cases same : value.magnitude with
  | finite significand scale => simp [same, Magnitude.isFinite] at infinite
  | infinite => simp [Binary.decimal?, same]

/-- The text of a number is one token, as infinite floats are written as null. -/
theorem clear_of_returns {number : Number} (fitting : number.Fitting) (returns : number.Returns) :
    number.Clear := by
  cases number with
  | integer value => exact .inr ⟨_, Numeral.scan_integer fitting⟩
  | double value =>
      cases finite : value.magnitude.isFinite with
      | false => exact .inl (by simp [text, text_of_infinite finite])
      | true => exact .inr ⟨_, returns finite⟩
  | single value =>
      cases finite : value.magnitude.isFinite with
      | false => exact .inl (by simp [text, text_of_infinite finite])
      | true =>
          obtain ⟨number, scanned, _⟩ := written_of_returns returns finite
          exact .inr ⟨number, scanned⟩

/-- The value that the text of a number is read as. -/
def reread (number : Number) : Json :=
  match (Numeral.scan number.text.toList).1 with
  | .exact same => .number same
  | .tooLarge | .broken _ => .null

theorem reread_of_scan {number same : Number}
    (scanned : Numeral.scan number.text.toList = (.exact same, [])) :
    number.reread = .number same := by
  rw [reread, scanned]

/-- The number of a numeral is read back from its text. -/
theorem reread_of_numeric {number : Number} (numeric : number.Numeric)
    (returns : number.Returns) : number.reread = .number number := by
  refine reread_of_scan ?_
  obtain ⟨numeral, found⟩ := numeric
  cases number with
  | integer value => exact Numeral.scan_integer (Numeral.fits_of_number? found)
  | double value => exact returns (Numeral.finite_of_number? found)
  | single value =>
      rw [Numeral.number?] at found
      split at found <;> simp at found

end Number

theorem allNumbers_clear {value : Json} (fitting : AllNumbers Number.Fitting value)
    (returns : AllNumbers Number.Returns value) : AllNumbers Number.Clear value :=
  fun number member => Number.clear_of_returns (fitting number member) (returns number member)

mutual

/-- The value that is read in the place of a value. Its numbers are read from their texts. -/
def reread : Json → Json
  | .null => .null
  | .boolean value => .boolean value
  | .number value => value.reread
  | .text value => .text value
  | .list items => .list (rereadItems items)
  | .object members => .object (rereadMembers members)

def rereadItems : List Json → List Json
  | [] => []
  | item :: rest => reread item :: rereadItems rest

def rereadMembers : List (String × Json) → List (String × Json)
  | [] => []
  | (key, value) :: rest => (key, reread value) :: rereadMembers rest

end

mutual

/-- A value is read back if its numbers are. -/
theorem reread_of_same (value : Json)
    (same : ∀ number ∈ value.numbers, number.reread = .number number) : reread value = value := by
  match value with
  | .null | .boolean _ | .text _ => rfl
  | .number value => exact same value List.mem_cons_self
  | .list items => rw [reread, rereadItems_of_same items same]
  | .object members => rw [reread, rereadMembers_of_same members same]

theorem rereadItems_of_same (items : List Json)
    (same : ∀ number ∈ numbersOfItems items, number.reread = .number number) :
    rereadItems items = items := by
  match items with
  | [] => rfl
  | item :: rest =>
      obtain ⟨first, others⟩ := List.forall_mem_append.mp same
      rw [rereadItems, reread_of_same item first, rereadItems_of_same rest others]

theorem rereadMembers_of_same (members : List (String × Json))
    (same : ∀ number ∈ numbersOfMembers members, number.reread = .number number) :
    rereadMembers members = members := by
  match members with
  | [] => rfl
  | (key, value) :: rest =>
      obtain ⟨first, others⟩ := List.forall_mem_append.mp same
      rw [rereadMembers, reread_of_same value first, rereadMembers_of_same rest others]

end

theorem reread_of_returns {value : Json} (legible : Legible value)
    (returns : AllNumbers Number.Returns value) : value.reread = value :=
  reread_of_same value fun number member =>
    Number.reread_of_numeric (legible.numeric number member) (returns number member)

theorem rereadMembers_eq (members : List (String × Json)) :
    rereadMembers members = members.map fun member => (member.1, member.2.reread) := by
  induction members with
  | nil => rfl
  | cons member rest inductionHypothesis =>
      rw [rereadMembers, inductionHypothesis, List.map_cons]

/-- The keys of members that are read again are still sorted. -/
theorem sorted_rereadMembers {members : List (String × Json)} (sorted : Sorted members) :
    Sorted (rereadMembers members) := by
  rw [rereadMembers_eq, Sorted, List.pairwise_map]
  exact sorted

namespace Reader

variable {embedded : String → Except ReadFault Json}

theorem held?_of_not_seemsHolder {members : List (String × Json)} (ending : Ending)
    (plain : seemsHolder members = false) :
    held? embedded ending (documentsOfMembers members) = none := by
  cases members with
  | nil => rfl
  | cons member rest =>
      have other : member.1 ≠ holderKey := by
        simpa [seemsHolder] using plain
      rw [documentsOfMembers, held?, if_neg other]

/-- Null stands for an infinite float. -/
theorem valueOf_number {number : Number} (room : Nat) (clear : number.Clear) :
    valueOf embedded number.document room = .ok number.reread := by
  rcases clear with infinite | ⟨same, scanned⟩
  · rw [Number.document, if_pos infinite, Number.reread, infinite]
    rfl
  · rw [Number.document_of_scan scanned, Number.reread_of_scan scanned]
    rfl

mutual

/-- A regular value is read again from its document if there is room for it and if the text of each
number is one token. -/
theorem valueOf_document (value : Json) (room : Nat) (regular : Regular value)
    (readable : isReadable value room = true) (clear : ∀ number ∈ value.numbers, number.Clear) :
    valueOf embedded value.document room = .ok value.reread := by
  match value, room with
  | .null, _ => rfl
  | .boolean _, _ => rfl
  | .number value, room => exact valueOf_number room (clear value List.mem_cons_self)
  | .text _, _ => rfl
  | .list items, room + 1 =>
      rw [Json.document, valueOf, valuesOf_document items room regular readable clear]
      rfl
  | .object members, room + 1 =>
      obtain ⟨plain, readable⟩ := Bool.and_eq_true_iff.mp readable
      have plain : seemsHolder members = false := by
        simpa using plain
      rw [Json.document, valueOf, held?_of_not_seemsHolder .closed plain]
      dsimp only
      rw [entriesOf_document members room regular.2 readable clear]
      change Except.ok (Json.object (sortMembers (rereadMembers members))) = _
      rw [sortMembers_of_sorted (sorted_rereadMembers regular.1), reread]

theorem valuesOf_document (items : List Json) (room : Nat) (regular : RegularItems items)
    (readable : areReadable items room = true)
    (clear : ∀ number ∈ numbersOfItems items, number.Clear) :
    valuesOf embedded (documentsOfItems items) room = .ok (rereadItems items) := by
  match items with
  | [] => rfl
  | item :: rest =>
      obtain ⟨first, others⟩ := Bool.and_eq_true_iff.mp readable
      obtain ⟨firstClear, othersClear⟩ := List.forall_mem_append.mp clear
      rw [documentsOfItems, valuesOf, valueOf_document item room regular.1 first firstClear,
        valuesOf_document rest room regular.2 others othersClear]
      rfl

theorem entriesOf_document (members : List (String × Json)) (room : Nat)
    (regular : RegularMembers members) (readable : areReadableMembers members room = true)
    (clear : ∀ number ∈ numbersOfMembers members, number.Clear) :
    entriesOf embedded (documentsOfMembers members) room = .ok (rereadMembers members) := by
  match members with
  | [] => rfl
  | (key, value) :: rest =>
      obtain ⟨first, others⟩ := Bool.and_eq_true_iff.mp readable
      obtain ⟨firstClear, othersClear⟩ := List.forall_mem_append.mp clear
      rw [documentsOfMembers, entriesOf, valueOf_document value room regular.1 first firstClear,
        entriesOf_document rest room regular.2 others othersClear]
      rfl

end

/-- A regular value is read again from its document if there is room for it. -/
theorem value_document {value : Json} {room : Nat} (regular : Regular value)
    (readable : isReadable value room = true) (clear : AllNumbers Number.Clear value) :
    Reader.value room value.document = .ok value.reread :=
  valueOf_document value room regular readable clear

end Reader

end Playback.Json
