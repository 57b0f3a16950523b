import Playback.Proofs.Json.Scalars

namespace Playback

namespace Text

/-- A digit is one of the first characters, and its value is written as its lower case form. -/
theorem hexValue?_told (letter : Char) :
    (letter.isHexDigit = true ∧
      ∃ value, value < 16 ∧ hexValue? letter = some value ∧ hexDigit value = letter.toLower) ∨
      letter.isHexDigit = false ∧ hexValue? letter = none := by
  have known : ∀ code : Fin 128,
      ((Char.ofNat code).isHexDigit = true ∧ ∃ value, value < 16 ∧
        hexValue? (Char.ofNat code) = some value ∧ hexDigit value = (Char.ofNat code).toLower) ∨
        (Char.ofNat code).isHexDigit = false ∧ hexValue? (Char.ofNat code) = none := by
    decide +kernel
  by_cases small : letter.toNat < 128
  · have told := known ⟨letter.toNat, small⟩
    rwa [Char.ofNat_toNat] at told
  · have code : letter.val.toNat = letter.toNat := rfl
    refine .inr ⟨Bool.eq_false_iff.mpr fun digit => ?_, ?_⟩
    · simp [Char.isHexDigit, Char.isDigit, UInt32.le_iff_toNat_le] at digit
      omega
    · have outside {least greatest : Char} (early : greatest.toNat < 128) :
          ¬ (least ≤ letter ∧ letter ≤ greatest) := by
        simp only [Char.le_def, UInt32.le_iff_toNat_le, Char.toNat_val]
        omega
      rw [hexValue?, if_neg (outside (by decide)), if_neg (outside (by decide)),
        if_neg (outside (by decide))]

theorem hexDigit_lt_iff {value other : Nat} (small : value < 16) (small' : other < 16) :
    hexDigit value < hexDigit other ↔ value < other := by
  have known : ∀ digit digit' : Fin 16,
      hexDigit digit < hexDigit digit' ↔ digit.val < digit'.val := by decide
  exact known ⟨value, small⟩ ⟨other, small'⟩

theorem hexDigit_inj {value other : Nat} (small : value < 16) (small' : other < 16) :
    hexDigit value = hexDigit other ↔ value = other := by
  refine ⟨fun same => ?_, congrArg hexDigit⟩
  have read := (hexDigit_lawful small).1
  rw [same, (hexDigit_lawful small').1] at read
  exact (Option.some.inj read).symm

end Text

namespace Digest

open Text

/-- Two digits are read as the byte that is written with their lower case forms. -/
theorem hexPair_ofNat {high low : Nat} (highSmall : high < 16) (lowSmall : low < 16) :
    hexPair (UInt8.ofNat (16 * high + low)) = [hexDigit high, hexDigit low] := by
  have whole : (UInt8.ofNat (16 * high + low)).toNat = 16 * high + low := by
    rw [UInt8.toNat_ofNat']
    omega
  rw [hexPair, whole, show (16 * high + low) / 16 = high by omega,
    show (16 * high + low) % 16 = low by omega]

theorem length_hexPairs (bytes : List UInt8) :
    (bytes.flatMap hexPair).length = 2 * bytes.length := by
  induction bytes with
  | nil => rfl
  | cons byte rest inductionHypothesis =>
      rw [List.flatMap_cons, List.length_append, inductionHypothesis, List.length_cons, hexPair,
        List.length_cons, List.length_singleton]
      omega

/-- The letters are read as bytes if they are digits in pairs, and as nothing otherwise. -/
theorem hexBytes?_told : (letters : List Char) →
    ((∀ letter ∈ letters, letter.isHexDigit = true) ∧ ∃ bytes, hexBytes? letters = some bytes ∧
      letters.map Char.toLower = bytes.flatMap hexPair) ∨
      (letters.length % 2 = 1 ∨ ∃ letter ∈ letters, letter.isHexDigit = false) ∧
        hexBytes? letters = none
  | [] => .inl ⟨nofun, [], rfl, rfl⟩
  | [_] => .inr ⟨.inl rfl, rfl⟩
  | high :: low :: rest => by
      rcases hexValue?_told high with ⟨highDigit, first, firstSmall, highRead, highLower⟩ | other
      · rcases hexValue?_told low with ⟨lowDigit, second, secondSmall, lowRead, lowLower⟩ | other
        · rcases hexBytes?_told rest with ⟨digits, bytes, read, lower⟩ | ⟨reason, unread⟩
          · refine .inl ⟨List.forall_mem_cons.mpr ⟨highDigit, List.forall_mem_cons.mpr
              ⟨lowDigit, digits⟩⟩, UInt8.ofNat (16 * first + second) :: bytes,
              by simp [hexBytes?, highRead, lowRead, read], ?_⟩
            rw [List.flatMap_cons, hexPair_ofNat firstSmall secondSmall, highLower, lowLower, ← lower]
            rfl
          · refine .inr ⟨?_, by simp [hexBytes?, highRead, lowRead, unread]⟩
            rcases reason with odd | ⟨letter, member, other⟩
            · left
              rw [List.length_cons, List.length_cons]
              omega
            · exact .inr ⟨letter, by simp [member], other⟩
        · exact .inr ⟨.inr ⟨low, by simp, other.1⟩, by simp [hexBytes?, highRead, other.2]⟩
      · exact .inr ⟨.inr ⟨high, by simp, other.1⟩, by simp [hexBytes?, other.2]⟩

/-- The two digits of a byte are ordered like the byte, because the high one comes first. -/
theorem hexPair_append_lt_iff (byte other : UInt8) (left right : List Char) :
    hexPair byte ++ left < hexPair other ++ right ↔ byte < other ∨ byte = other ∧ left < right := by
  have small := byte.toNat_lt
  have small' := other.toNat_lt
  simp only [hexPair, List.cons_append, List.nil_append, List.cons_lt_cons_iff]
  rw [hexDigit_lt_iff (by omega) (by omega), hexDigit_lt_iff (by omega) (by omega),
    hexDigit_inj (by omega) (by omega), hexDigit_inj (by omega) (by omega),
    UInt8.lt_iff_toNat_lt, ← UInt8.toNat_inj]
  by_cases less : left < right
  · simp only [less, and_true]
    omega
  · simp only [less, and_false, or_false]
    omega

theorem hexPairs_lt_iff (left right : List UInt8) :
    left.flatMap hexPair < right.flatMap hexPair ↔ left < right := by
  induction left generalizing right with
  | nil =>
      cases right with
      | nil => simp
      | cons other right => simp [hexPair]
  | cons byte left inductionHypothesis =>
      cases right with
      | nil => simp
      | cons other right =>
          rw [List.flatMap_cons, List.flatMap_cons, hexPair_append_lt_iff, inductionHypothesis,
            List.cons_lt_cons_iff]

/-- A text of so many hexadecimal digits of either case. -/
structure Hexadecimal (count : Nat) (text : String) : Prop where
  length : text.length = count
  digits : ∀ letter ∈ text.toList, letter.isHexDigit = true

/-- A text is read as a digest, or it has digits for some other number of bytes, or some letter of it is
no digit or has no partner. -/
inductive Told (text : String) : Except HexFault Digest → Prop where
  | digest (digest : Digest) (hexadecimal : Hexadecimal 64 text) (lower : digest.hex = text.toLower) :
      Told text (.ok digest)
  | length (count : Nat) (hexadecimal : Hexadecimal (2 * count) text) (other : count ≠ 32) :
      Told text (.error (.length count))
  | notHexadecimal
      (reason : text.length % 2 = 1 ∨ ∃ letter ∈ text.toList, letter.isHexDigit = false) :
      Told text (.error .notHexadecimal)

theorem ofHex_told (text : String) : Told text (ofHex text) := by
  rw [ofHex]
  rcases hexBytes?_told text.toList with ⟨digits, bytes, read, lower⟩ | ⟨reason, unread⟩
  · have length : text.length = 2 * bytes.length := by
      rw [← length_hexPairs, ← lower, List.length_map, String.length_toList]
    rw [read]
    dsimp only
    split
    · rename_i exact
      refine .digest _ ⟨by omega, digits⟩ (String.toList_inj.mp ?_)
      have letters : text.toLower.toList = text.toList.map Char.toLower := String.toList_map
      rw [hex, String.toList_ofList, letters, lower]
      rfl
    · rename_i other
      exact .length bytes.length ⟨length, digits⟩ other
  · rw [unread]
    rw [String.length_toList] at reason
    exact .notHexadecimal reason

theorem hex_inj {digest other : Digest} (same : digest.hex = other.hex) : digest = other := by
  have read := ofHex_hex digest
  rw [same, ofHex_hex other] at read
  exact (Except.ok.inj read).symm

theorem Hexadecimal.not_broken (count : Nat) {text : String}
    (hexadecimal : Hexadecimal (2 * count) text) :
    ¬ (text.length % 2 = 1 ∨ ∃ letter ∈ text.toList, letter.isHexDigit = false) := by
  rintro (odd | ⟨letter, member, other⟩)
  · rw [hexadecimal.length] at odd
    omega
  · rw [hexadecimal.digits letter member] at other
    contradiction

/-- No text is told in two ways. -/
theorem Told.unique {text : String} {result other : Except HexFault Digest}
    (told : Told text result) (told' : Told text other) : result = other := by
  cases told with
  | digest digest hexadecimal lower =>
      cases told' with
      | digest digest' hexadecimal' lower' => rw [hex_inj (lower.trans lower'.symm)]
      | length count hexadecimal' other =>
          have same := hexadecimal.length.symm.trans hexadecimal'.length
          omega
      | notHexadecimal reason => exact absurd reason (hexadecimal.not_broken 32)
  | length count hexadecimal other =>
      cases told' with
      | digest digest' hexadecimal' lower' =>
          have same := hexadecimal.length.symm.trans hexadecimal'.length
          omega
      | length count' hexadecimal' other' =>
          have same := hexadecimal.length.symm.trans hexadecimal'.length
          rw [show count = count' by omega]
      | notHexadecimal reason => exact absurd reason (hexadecimal.not_broken _)
  | notHexadecimal reason =>
      cases told' with
      | digest digest' hexadecimal' lower' => exact absurd reason (hexadecimal'.not_broken 32)
      | length count hexadecimal' other => exact absurd reason (hexadecimal'.not_broken _)
      | notHexadecimal reason' => rfl

theorem ofHex_eq_iff {text : String} {result : Except HexFault Digest} :
    ofHex text = result ↔ Told text result := by
  constructor
  · rintro rfl
    exact ofHex_told text
  · exact (ofHex_told text).unique

theorem exists_ofHex_iff {text : String} :
    (∃ digest, ofHex text = .ok digest) ↔ Hexadecimal 64 text := by
  constructor
  · rintro ⟨digest, read⟩
    cases ofHex_eq_iff.mp read with
    | digest _ hexadecimal lower => exact hexadecimal
  · intro hexadecimal
    have told := ofHex_told text
    generalize ofHex text = result at told
    cases told with
    | digest digest _ lower => exact ⟨digest, rfl⟩
    | length count hexadecimal' other =>
        have same := hexadecimal.length.symm.trans hexadecimal'.length
        omega
    | notHexadecimal reason => exact absurd reason (hexadecimal.not_broken 32)

theorem ofHex_eq_length_iff {text : String} {count : Nat} :
    ofHex text = .error (.length count) ↔ Hexadecimal (2 * count) text ∧ count ≠ 32 := by
  rw [ofHex_eq_iff]
  constructor
  · rintro ⟨⟩
    exact ⟨‹_›, ‹_›⟩
  · exact fun ⟨hexadecimal, other⟩ => .length count hexadecimal other

theorem ofHex_eq_notHexadecimal_iff {text : String} :
    ofHex text = .error .notHexadecimal ↔
      text.length % 2 = 1 ∨ ∃ letter ∈ text.toList, letter.isHexDigit = false := by
  rw [ofHex_eq_iff]
  constructor
  · rintro ⟨⟩
    assumption
  · exact .notHexadecimal

theorem less_iff (digest other : Digest) : digest.less other = true ↔ digest.hex < other.hex := by
  rw [less, decide_eq_true_iff, ← hexPairs_lt_iff, String.lt_iff, hex, hex, String.toList_ofList,
    String.toList_ofList]

end Digest

open Digest in
/-- A text is read as a digest exactly if it has sixty-four hexadecimal digits, and otherwise the fault
tells another number of bytes, or that the text is not hexadecimal. A digest is read back from its text,
which is the lower case form of every text that is read as it, and the texts are ordered like the
digests. -/
theorem digests_of_hexTexts :
    (∀ text : String,
      ((∃ digest, ofHex text = .ok digest) ↔ Hexadecimal 64 text) ∧
      (∀ count, ofHex text = .error (.length count) ↔ Hexadecimal (2 * count) text ∧ count ≠ 32) ∧
      (ofHex text = .error .notHexadecimal ↔
        text.length % 2 = 1 ∨ ∃ letter ∈ text.toList, letter.isHexDigit = false) ∧
      ∀ digest, ofHex text = .ok digest → digest.hex = text.toLower) ∧
      (∀ digest : Digest, ofHex digest.hex = .ok digest) ∧
      ∀ digest other : Digest, digest.less other = true ↔ digest.hex < other.hex := by
  refine ⟨fun text => ⟨exists_ofHex_iff, fun count => ofHex_eq_length_iff,
    ofHex_eq_notHexadecimal_iff, fun digest read => ?_⟩, ofHex_hex, less_iff⟩
  cases ofHex_eq_iff.mp read with
  | digest _ hexadecimal lower => exact lower

open Digest in
/-- Sixty-four digits of both cases are read, four digits are too few, and other letters are no digits. -/
theorem digests_of_mixedHexTexts :
    let text := "00112233445566778899aAbBcCdDeEfF00112233445566778899AabBCcdDEefF"
    (∃ digest, ofHex text = .ok digest ∧ digest.hex = text.toLower) ∧
      ofHex "abcd" = .error (.length 2) ∧ ofHex "zé" = .error .notHexadecimal := by
  intro text
  obtain ⟨texts, _, _⟩ := digests_of_hexTexts
  obtain ⟨read, _, _, lower⟩ := texts text
  obtain ⟨digest, found⟩ := read.mpr ⟨by decide, List.all_eq_true.mp (by decide)⟩
  obtain ⟨_, short, _⟩ := texts "abcd"
  obtain ⟨_, _, other, _⟩ := texts "zé"
  exact ⟨⟨digest, found, lower digest found⟩,
    (short 2).mpr ⟨⟨by decide, List.all_eq_true.mp (by decide)⟩, by decide⟩,
    other.mpr (.inr ⟨'z', by decide, by decide⟩)⟩

end Playback
