import Mathlib.Algebra.Group.Nat.Defs
import Playback.Instant.Reading
import Playback.Proofs.Calendar
import Playback.Proofs.Json.Numerals

namespace Playback.Instant

open Text Json

/-- The letters are the decimal digits of a number, with zeros in front of them. -/
structure Numbers (letters : List Char) (value : Nat) : Prop where
  given : letters ≠ []
  digits : ∀ letter ∈ letters, isDigit letter = true
  value : ofDigits letters = value

section Digits

theorem ofDigits_zeros (count : Nat) (letters : List Char) :
    ofDigits (List.replicate count '0' ++ letters) = ofDigits letters := by
  induction count with
  | zero => rfl
  | succ count inductionHypothesis => exact inductionHypothesis

theorem letters_padded (width value : Nat) : (padded width value).toList =
    List.replicate (width - (Nat.toDigits 10 value).length) '0' ++ Nat.toDigits 10 value := by
  simp [padded, ← String.length_toList]

theorem numbers_padded (width value : Nat) : Numbers (padded width value).toList value := by
  rw [letters_padded]
  refine ⟨?_, fun letter member => ?_, ?_⟩
  · simp [Nat.toDigits_ne_nil]
  · rcases List.mem_append.mp member with zero | digit
    · rw [(List.mem_replicate.mp zero).2]
      rfl
    · exact Numeral.isDigit_of_mem_toDigits digit
  · rw [ofDigits_zeros]
    exact Nat.ofDigitChars_ten_toDigits

theorem length_padded {width value : Nat} (positive : 0 < width) (small : value < 10 ^ width) :
    (padded width value).toList.length = width := by
  have short := (Nat.length_toDigits_le_iff (by decide) positive).mpr small
  rw [letters_padded, List.length_append, List.length_replicate]
  omega

end Digits

section Scanners

variable {letters rest : List Char} {value : Nat}

/-- A number of digits that may not go on is scanned as a whole. -/
theorem digits_of_numbers (numbers : Numbers letters value) {limit : Nat}
    (short : letters.length ≤ limit)
    (ends : letters.length = limit ∨ ∀ letter ∈ rest.head?, isDigit letter = false) :
    digits (letters ++ rest) limit = .ok (letters, rest) := by
  have found : ((letters ++ rest).take limit).takeWhile isDigit = letters := by
    rw [List.take_append, List.take_of_length_le short,
      List.takeWhile_append_of_pos numbers.digits]
    rcases ends with full | stop
    · rw [full, Nat.sub_self, List.take_zero, List.takeWhile_nil, List.append_nil]
    · have none : (rest.take (limit - letters.length)).takeWhile isDigit = [] := by
        cases rest with
        | nil => simp
        | cons letter rest =>
            cases limit - letters.length with
            | zero => rfl
            | succ more => simp [stop letter rfl]
      rw [none, List.append_nil]
  cases letters with
  | nil => exact absurd rfl numbers.given
  | cons letter others =>
      rw [List.cons_append] at found ⊢
      rw [digits, if_pos (numbers.digits letter List.mem_cons_self)]
      simp only [found, List.length_cons, List.drop_succ_cons, List.drop_left]

theorem number_of_numbers (numbers : Numbers letters value) {limit : Nat}
    (short : letters.length ≤ limit)
    (ends : letters.length = limit ∨ ∀ letter ∈ rest.head?, isDigit letter = false)
    (small : 2 * value < UInt64.size) : number limit (letters ++ rest) = .ok (value, rest) := by
  rw [number, digits_of_numbers numbers short ends]
  change (if 2 * ofDigits letters < UInt64.size then _ else _) = _
  rw [numbers.value, if_pos small]
  rfl

theorem dropBlanks_of_shown {letter : Char} (shown : isBlank letter = false) (rest : List Char) :
    dropBlanks (letter :: rest) = letter :: rest := by
  rw [dropBlanks, List.dropWhile_cons, if_neg (Bool.eq_false_iff.mp shown)]

theorem shown_of_isDigit {letter : Char} (digit : isDigit letter = true) :
    isBlank letter = false := by
  have code : 48 ≤ letter.toNat ∧ letter.toNat ≤ 57 := by
    rw [isDigit, Bool.and_eq_true, decide_eq_true_iff, decide_eq_true_iff] at digit
    exact digit
  simp [isBlank]
  omega

theorem Numbers.isDigit_first (numbers : Numbers letters value) {letter : Char} {others : List Char}
    (same : letters ++ rest = letter :: others) : isDigit letter = true := by
  cases letters with
  | nil => exact absurd rfl numbers.given
  | cons first letters =>
      obtain ⟨rfl, _⟩ := List.cons.inj same
      exact numbers.digits first List.mem_cons_self

theorem Numbers.dropBlanks (numbers : Numbers letters value) (rest : List Char) :
    dropBlanks (letters ++ rest) = letters ++ rest := by
  cases letters with
  | nil => exact absurd rfl numbers.given
  | cons letter others =>
      exact dropBlanks_of_shown (shown_of_isDigit (numbers.digits letter List.mem_cons_self)) _

/-- Two digits within bounds are a part of a date or a time of day. -/
theorem part_padded (low high : Int) {value : Nat} (small : value < 100)
    (within : low ≤ value ∧ (value : Int) ≤ high) (rest : List Char) :
    part low high ((padded 2 value).toList ++ rest) = .ok ((value : Int), rest) := by
  have numbers := numbers_padded 2 value
  have length : (padded 2 value).toList.length = 2 := length_padded (by decide) small
  have bound : UInt64.size = 2 ^ 64 := rfl
  rw [part, numbers.dropBlanks,
    number_of_numbers numbers (Nat.le_of_eq length) (.inl length) (by omega)]
  change (bounded low high value >>= _) = _
  rw [bounded, if_pos within]
  rfl

theorem literal_self {letter : Char} (shown : isBlank letter = false) (rest : List Char) :
    literal letter (letter :: rest) = .ok rest := by
  rw [literal, dropBlanks_of_shown shown]
  exact if_pos rfl

/-- A number of any length is read up to the dash behind it. -/
theorem number_signed {value : Nat} (small : value ≤ 262143) (rest : List Char) :
    number ((padded 4 value).toList ++ '-' :: rest).length
      ((padded 4 value).toList ++ '-' :: rest) = .ok (value, '-' :: rest) := by
  have bound : UInt64.size = 2 ^ 64 := rfl
  refine number_of_numbers (numbers_padded 4 value) ?_ (.inr ?_) (by omega)
  · rw [List.length_append]
    exact Nat.le_add_right _ _
  · rintro letter ⟨⟩
    rfl

/-- A year is read up to the dash behind it. -/
theorem year_yearText {year : Int} (known : -262143 ≤ year ∧ year ≤ 262142) (rest : List Char) :
    Instant.year ((yearText year).toList ++ '-' :: rest) = .ok (year, '-' :: rest) := by
  have within : bounded (-2147483648) 2147483647 year = .ok year := by
    rw [bounded, if_pos (by omega)]
  rw [yearText]
  by_cases plain : 0 ≤ year ∧ year ≤ 9999
  · have numbers := numbers_padded 4 year.toNat
    have length : (padded 4 year.toNat).toList.length = 4 := length_padded (by decide) (by omega)
    have bound : UInt64.size = 2 ^ 64 := rfl
    have value : ((year.toNat : Nat) : Int) = year := Int.toNat_of_nonneg plain.1
    have read : number 4 ((padded 4 year.toNat).toList ++ '-' :: rest) =
        .ok (year.toNat, '-' :: rest) :=
      number_of_numbers numbers (Nat.le_of_eq length) (.inl length) (by omega)
    rw [if_pos plain, Instant.year, numbers.dropBlanks]
    split
    · rename_i others same
      exact absurd (numbers.isDigit_first same) (by decide)
    · rename_i others same
      exact absurd (numbers.isDigit_first same) (by decide)
    · rw [read]
      simp only [bind, Except.bind, pure, Except.pure, value, within]
  · rw [if_neg plain]
    by_cases negative : year < 0
    · have shown : isBlank '-' = false := by decide
      have value : -(year.natAbs : Int) = year := by
        omega
      have sign : ("-" ++ padded 4 year.natAbs).toList = '-' :: (padded 4 year.natAbs).toList := by
        simp
      rw [if_pos negative, sign, List.cons_append, Instant.year, dropBlanks_of_shown shown]
      simp only [number_signed (show year.natAbs ≤ 262143 by omega), bind, Except.bind, pure,
        Except.pure, value, within]
    · have shown : isBlank '+' = false := by decide
      have value : (year.natAbs : Int) = year := by
        omega
      have sign : ("+" ++ padded 4 year.natAbs).toList = '+' :: (padded 4 year.natAbs).toList := by
        simp
      rw [if_neg negative, sign, List.cons_append, Instant.year, dropBlanks_of_shown shown]
      simp only [number_signed (show year.natAbs ≤ 262143 by omega), bind, Except.bind, pure,
        Except.pure, value, within]

/-- A fraction is read up to a letter that is no digit. -/
theorem fraction_point {width value : Nat} (positive : 0 < width) (short : width ≤ 9)
    (small : value < 10 ^ width) (rest : List Char) :
    fraction ('.' :: ((padded width value).toList ++ 'Z' :: rest)) =
      .ok (value * 10 ^ (9 - width), 'Z' :: rest) := by
  have numbers := numbers_padded width value
  have length := length_padded positive small
  have stop : ∀ letter ∈ ('Z' :: rest).head?, isDigit letter = false := by
    rintro letter ⟨⟩
    rfl
  have kept : ('Z' :: rest).dropWhile isDigit = 'Z' :: rest := by
    rw [List.dropWhile_cons, stop 'Z' rfl, if_neg Bool.false_ne_true]
  rw [fraction, digits_of_numbers numbers (by omega) (.inr stop)]
  simp only [bind, Except.bind, pure, Except.pure, numbers.value, length, Nat.pow_eq, kept]

theorem fraction_fractionText {nano : Nat} (small : nano < 1000000000) (rest : List Char) :
    fraction ((fractionText nano).toList ++ 'Z' :: rest) = .ok (nano, 'Z' :: rest) := by
  have point (text : String) : ("." ++ text).toList = '.' :: text.toList := by
    simp
  rw [fractionText]
  split
  · rename_i zero
    rw [zero]
    rfl
  · split
    · rw [point, List.cons_append, fraction_point (by decide) (by decide) (by omega)]
      congr 2
      omega
    · split
      · rw [point, List.cons_append, fraction_point (by decide) (by decide) (by omega)]
        congr 2
        omega
      · rw [point, List.cons_append, fraction_point (by decide) (by decide) small]
        simp

end Scanners

/-- What the text of an instant says, with a leap second as the second after the last one. -/
def spelled (instant : Instant) : Written where
  year := (Calendar.dateOf instant.day).1
  month := (Calendar.dateOf instant.day).2.1
  day := (Calendar.dateOf instant.day).2.2
  hour := (instant.second / 3600 : Nat)
  minute := (instant.second / 60 % 60 : Nat)
  second := (instant.second % 60 + instant.nano / 1000000000 : Nat)
  nano := instant.nano % 1000000000
  offset := 0

/-- The letters of the text of an instant, part by part. -/
theorem letters_text (instant : Instant) : instant.text.toList =
    (yearText instant.spelled.year).toList ++ '-' ::
      ((padded 2 instant.spelled.month.toNat).toList ++ '-' ::
      ((padded 2 instant.spelled.day.toNat).toList ++ 'T' ::
      ((padded 2 (instant.second / 3600)).toList ++ ':' ::
      ((padded 2 (instant.second / 60 % 60)).toList ++ ':' ::
      ((padded 2 (instant.second % 60 + instant.nano / 1000000000)).toList ++
      ((fractionText (instant.nano % 1000000000)).toList ++ ['Z'])))))) := by
  have letters : "-".toList = ['-'] ∧ "T".toList = ['T'] ∧ ":".toList = [':'] ∧
      "Z".toList = ['Z'] := ⟨rfl, rfl, rfl, rfl⟩
  obtain ⟨dash, parting, colon, zulu⟩ := letters
  simp only [text, spelled, String.toList_append, List.append_assoc, dash, parting, colon, zulu,
    List.cons_append, List.nil_append]

theorem monthLength_le (year month : Int) : Calendar.monthLength year month ≤ 31 := by
  rw [Calendar.monthLength]
  split
  · split <;> decide
  · split <;> decide

/-- The parts of a date are written as natural numbers. -/
theorem part_toNat (low high : Int) {value : Int} (least : 0 ≤ low) (most : high < 100)
    (within : low ≤ value ∧ value ≤ high) (rest : List Char) :
    part low high ((padded 2 value.toNat).toList ++ rest) = .ok (value, rest) := by
  have same : ((value.toNat : Nat) : Int) = value := Int.toNat_of_nonneg (by omega)
  rw [part_padded low high (by omega) (by omega), same]

theorem written_text (instant : Instant) :
    written instant.text.toList = .ok (instant.spelled, []) := by
  obtain ⟨yearKnown, monthKnown, dayLeast, dayMost⟩ := Calendar.dateOf_lawful instant.dayKnown
  have secondSmall := instant.secondSmall
  have nanoSmall := instant.nanoSmall
  have dash : isBlank '-' = false := by decide
  have colon : isBlank ':' = false := by decide
  have zulu : isBlank 'Z' = false := by decide
  have yearPart := year_yearText yearKnown
  have monthPart := part_toNat 1 12 (by decide) (by decide) monthKnown
  have dayPart := part_toNat 1 31 (by decide) (by decide)
    ⟨dayLeast, Int.le_trans dayMost (monthLength_le _ _)⟩
  have hourPart := part_padded 0 23 (show instant.second / 3600 < 100 by omega) (by omega)
  have minutePart := part_padded 0 59 (show instant.second / 60 % 60 < 100 by omega) (by omega)
  have secondPart := part_padded 0 60
    (show instant.second % 60 + instant.nano / 1000000000 < 100 by omega) (by omega)
  have fractionPart := fraction_fractionText
    (show instant.nano % 1000000000 < 1000000000 by omega) []
  have parted (rest : List Char) : parting ('T' :: rest) = .ok rest := rfl
  have offsetPart : offset ['Z'] = .ok (0, []) := rfl
  rw [letters_text, spelled, written]
  simp only [yearPart, literal_self dash, literal_self colon, monthPart, dayPart, parted, hourPart,
    minutePart, secondPart, fractionPart, dropBlanks_of_shown zulu, offsetPart, bind, Except.bind,
    pure, Except.pure]

theorem ofParts?_self (instant : Instant) :
    ofParts? instant.day instant.second instant.nano = some instant := by
  rw [ofParts?, dif_pos instant.dayKnown, dif_pos instant.secondSmall, dif_pos instant.nanoSmall,
    dif_pos instant.leap]

/-- The parts of a time of day make up its seconds, and the time of day does not move the day. -/
theorem clock_parts {day : Int} {second : Nat} (small : second < 86400) :
    day + (3600 * ((second / 3600 : Nat) : Int) + 60 * ((second / 60 % 60 : Nat) : Int) +
        ((second % 60 : Nat) : Int) - 0) / 86400 = day ∧
      ((3600 * ((second / 3600 : Nat) : Int) + 60 * ((second / 60 % 60 : Nat) : Int) +
        ((second % 60 : Nat) : Int) - 0) % 86400).toNat = second := by
  omega

theorem instant_spelled (instant : Instant) : instant.spelled.instant = .ok instant := by
  obtain ⟨year, month, monthDay⟩ := Calendar.dateOf_lawful instant.dayKnown
  have nanoSmall := instant.nanoSmall
  obtain ⟨day, second⟩ := @clock_parts instant.day _ instant.secondSmall
  rw [Written.instant, spelled]
  dsimp only
  rw [if_pos ⟨year.1, year.2, monthDay.2⟩, if_pos (by decide), Calendar.dayOf_dateOf]
  by_cases plain : instant.nano < 1000000000
  · have seconds : instant.second % 60 + instant.nano / 1000000000 = instant.second % 60 := by
      omega
    have early : ¬ ((instant.second % 60 : Nat) : Int) = 60 := by
      omega
    have nano : instant.nano % 1000000000 = instant.nano := Nat.mod_eq_of_lt plain
    simp only [seconds, early, if_false, nano, day, second, ofParts?_self]
  · have last : instant.second % 60 = 59 := instant.leap.resolve_left plain
    have seconds : instant.second % 60 + instant.nano / 1000000000 = 60 := by
      omega
    have nano : instant.nano % 1000000000 + 1000000000 = instant.nano := by
      omega
    have sixty : ((60 : Nat) : Int) = 60 := rfl
    have before : ((59 : Nat) : Int) = 59 := rfl
    rw [last, before] at day second
    simp only [seconds, sixty, if_true, nano, day, second, ofParts?_self]

/-- An instant is read back from its text. -/
theorem ofText_text (instant : Instant) : ofText instant.text = .ok instant := by
  rw [ofText, written_text]
  exact instant.instant_spelled

end Playback.Instant
