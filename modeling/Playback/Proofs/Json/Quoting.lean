import Mathlib.Tactic.SplitIfs
import Playback.Json.Quoted
import Playback.Json.Value

namespace Playback.Text

/-- A digit is written with one byte and keeps its value. -/
theorem hexDigit_lawful {value : Nat} (small : value < 16) :
    hexValue? (hexDigit value) = some value ∧ (hexDigit value).utf8Size = 1 := by
  have known : ∀ digit : Fin 16,
      hexValue? (hexDigit digit) = some digit.val ∧ (hexDigit digit).utf8Size = 1 := by decide
  exact known ⟨value, small⟩

end Playback.Text

namespace Playback.Json.Quoted

open Text

/-- A control letter is written with two digits after two zeros. -/
theorem codeUnit_control {high low : Nat} (highSmall : high < 16) (lowSmall : low < 16)
    (rest : List Char) :
    codeUnit ('0' :: '0' :: hexDigit high :: hexDigit low :: rest) = .ok (high * 16 + low) := by
  obtain ⟨highValue, highSize⟩ := hexDigit_lawful highSmall
  obtain ⟨lowValue, lowSize⟩ := hexDigit_lawful lowSmall
  have size : (String.ofList ['0', '0', hexDigit high, hexDigit low]).utf8ByteSize = 4 := by
    simp [String.ofList_cons, String.utf8ByteSize_append, highSize, lowSize]
    decide
  have zero : hexValue? '0' = some 0 := by decide
  simp only [codeUnit, List.take_succ_cons, List.take_zero, size, Nat.lt_irrefl, if_false,
    List.map_cons, List.map_nil, zero, highValue, lowValue]
  simp

/-- The letters are scanned as one letter, whatever follows them. -/
structure Stands (letter : Char) (letters : List Char) : Prop where
  read : ∀ rest, read (letters ++ rest) = (read rest).map (letter :: ·)
  skip : ∀ rest, skip (letters ++ rest) = skip rest

/-- A letter with an escape of its own is read from it. -/
theorem stands_short {letter escape : Char} (known : escaped? escape = some letter) :
    Stands letter ['\\', escape] := by
  have own : escape ≠ 'u' := by
    rintro rfl
    contradiction
  constructor <;> intro rest
  · simp [Quoted.read, known]
  · simp [Quoted.skip, known]

/-- A control letter is no surrogate, and its code is read back. -/
theorem stands_control {letter : Char} (control : letter.toNat < 32) :
    Stands letter
      ['\\', 'u', '0', '0', hexDigit (letter.toNat / 16), hexDigit (letter.toNat % 16)] := by
  have unit (rest : List Char) : codeUnit ('0' :: '0' :: hexDigit (letter.toNat / 16) ::
      hexDigit (letter.toNat % 16) :: rest) = .ok letter.toNat := by
    rw [codeUnit_control (by omega) (by omega)]
    congr 1
    omega
  have low : isLowSurrogate letter.toNat = false := by
    simp [isLowSurrogate]
    omega
  have high : isHighSurrogate letter.toNat = false := by
    simp [isHighSurrogate]
    omega
  constructor <;> intro rest
  · simp [Quoted.read, codePoint, unit, low, high]
  · simp [Quoted.skip, unit]

/-- A letter that needs no escape stands for itself. -/
theorem stands_plain {letter : Char} (quote : letter ≠ '"') (backslash : letter ≠ '\\')
    (shown : ¬ letter.toNat < 32) : Stands letter [letter] := by
  constructor <;> intro rest
  · rw [List.singleton_append, Quoted.read]
    · rw [if_neg shown]
    all_goals simp_all
  · rw [List.singleton_append, Quoted.skip]
    · rw [if_neg shown]
    all_goals simp_all

theorem stands_escapedLetter (letter : Char) : Stands letter (escapedLetter letter) := by
  rw [escapedLetter]
  split_ifs with quote backslash backspace feed line carriage tab control
  · subst quote
    exact stands_short rfl
  · subst backslash
    exact stands_short rfl
  · subst backspace
    exact stands_short rfl
  · subst feed
    exact stands_short rfl
  · subst line
    exact stands_short rfl
  · subst carriage
    exact stands_short rfl
  · subst tab
    exact stands_short rfl
  · exact stands_control control
  · exact stands_plain quote backslash control

/-- The escaped letters up to the closing quote are read, and nothing after it is touched. -/
theorem scan_escaped (letters rest : List Char) :
    scan (letters.flatMap escapedLetter ++ '"' :: rest) = (.plain (String.ofList letters), rest) := by
  have read : Quoted.read (letters.flatMap escapedLetter ++ '"' :: rest) = .ok letters ∧
      Quoted.skip (letters.flatMap escapedLetter ++ '"' :: rest) = .ok rest := by
    induction letters with
    | nil => simp [Quoted.read, Quoted.skip]
    | cons letter letters inductionHypothesis =>
        have stands := stands_escapedLetter letter
        rw [List.flatMap_cons, List.append_assoc, stands.read, stands.skip, inductionHypothesis.1]
        exact ⟨rfl, inductionHypothesis.2⟩
  rw [scan, read.1, read.2]

end Playback.Json.Quoted
