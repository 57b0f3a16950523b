import Playback.Proofs.Json.Decimals
import Playback.Text.Word

namespace Playback.Text

open Json.Numeral

/-- Letters that tell a number by at least one decimal digit. A plus sign may stand in front of the
digits, and the first digits may be zeros. -/
inductive Unsigned : List Char → Nat → Prop where
  | plain {letters : List Char} (digits : AreDigits letters) :
      Unsigned letters (Nat.ofDigitChars 10 letters 0)
  | signed {letters : List Char} (digits : AreDigits letters) :
      Unsigned ('+' :: letters) (Nat.ofDigitChars 10 letters 0)

/-- Letters that tell a number of 64 bits. -/
def IsWord (letters : List Char) : Prop := ∃ value, Unsigned letters value ∧ value ≤ 2 ^ 64 - 1

variable {letters : List Char} {value total : Nat} {word : UInt64}

theorem digitValue?_eq (letter : Char) :
    digitValue? letter = if isDigit letter = true then some (digitValue letter) else none := by
  simp only [digitValue?, isDigit, digitValue, Bool.and_eq_true, decide_eq_true_iff]

theorem extend?_eq_some_iff :
    extend? value letters = some total ↔
      (∀ letter ∈ letters, isDigit letter = true) ∧ Nat.ofDigitChars 10 letters value = total := by
  induction letters generalizing value with
  | nil => simp [extend?]
  | cons letter rest inductionHypothesis =>
      rw [extend?, digitValue?_eq, List.forall_mem_cons, Nat.ofDigitChars_cons]
      by_cases digit : isDigit letter = true
      · rw [if_pos digit, and_assoc, and_iff_right digit]
        exact inductionHypothesis
      · rw [if_neg digit]
        exact iff_of_false nofun fun told => digit told.1.1

theorem digits?_eq_some_iff :
    digits? letters = some total ↔ AreDigits letters ∧ Nat.ofDigitChars 10 letters 0 = total := by
  cases letters with
  | nil => exact iff_of_false nofun fun told => told.1.given rfl
  | cons letter rest =>
      have given := List.cons_ne_nil letter rest
      rw [digits?, extend?_eq_some_iff]
      · exact ⟨fun ⟨all, same⟩ => ⟨⟨given, all⟩, same⟩, fun ⟨digits, same⟩ => ⟨digits.all, same⟩⟩
      · exact given

theorem unsigned?_eq_some_iff : unsigned? letters = some value ↔ Unsigned letters value := by
  constructor
  · intro read
    unfold unsigned? at read
    split at read
    · obtain ⟨digits, rfl⟩ := digits?_eq_some_iff.mp read
      exact .signed digits
    · obtain ⟨digits, rfl⟩ := digits?_eq_some_iff.mp read
      exact .plain digits
  · intro told
    cases told with
    | signed digits => exact digits?_eq_some_iff.mpr ⟨digits, rfl⟩
    | plain digits =>
        have read := digits?_eq_some_iff.mpr ⟨digits, rfl⟩
        unfold unsigned?
        split
        · -- A sign in front would have to be a digit itself.
          have sign := digits.all '+' List.mem_cons_self
          contradiction
        · exact read

theorem bounded?_eq_some_iff : bounded? value = some word ↔ value = word.toNat := by
  rw [bounded?]
  split
  · rename_i small
    rw [Option.some.injEq, ← UInt64.toNat_inj, UInt64.toNat_ofNat_of_lt' small]
  · rename_i large
    refine iff_of_false nofun ?_
    rintro rfl
    exact large word.toNat_lt_size

/-- A word is read from the letters that tell it. -/
theorem word?_eq_some_iff : word? letters = some word ↔ Unsigned letters word.toNat := by
  rw [word?, Option.bind_eq_some_iff]
  simp only [unsigned?_eq_some_iff, bounded?_eq_some_iff, exists_eq_right]

theorem isWord_iff : IsWord letters ↔ ∃ word : UInt64, Unsigned letters word.toNat := by
  constructor
  · rintro ⟨value, told, within⟩
    have small : value < UInt64.size := Nat.lt_of_le_of_lt within (by decide)
    exact ⟨UInt64.ofNat value, by rwa [UInt64.toNat_ofNat_of_lt' small]⟩
  · rintro ⟨word, told⟩
    exact ⟨word.toNat, told, Nat.le_pred_of_lt word.toNat_lt_size⟩

theorem word?_eq_none_iff : word? letters = none ↔ ¬ IsWord letters := by
  simp [isWord_iff, Option.eq_none_iff_forall_ne_some, word?_eq_some_iff]

instance : DecidablePred IsWord := fun letters =>
  decidable_of_iff ((word? letters).isSome = true) <| by
    rw [Option.isSome_iff_ne_none, ne_eq, word?_eq_none_iff, not_not]

theorem unsigned_toDigits (value : Nat) : Unsigned (Nat.toDigits 10 value) value := by
  have told := Unsigned.plain (areDigits_toDigits value)
  rwa [Nat.ofDigitChars_ten_toDigits] at told

end Playback.Text
