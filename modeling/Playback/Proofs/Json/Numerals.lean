import Mathlib.Data.List.TakeWhile
import Playback.Json.Numeral

namespace Playback.Json.Numeral

/-- The letters that may come next in a number. -/
def continues (letter : Char) : Bool :=
  isDigit letter || letter == '.' || letter == 'e' || letter == 'E'

/-- A number ends before these letters. -/
def Ends (rest : List Char) : Prop := ∀ letter ∈ rest.head?, continues letter = false

section Append

variable {letters tail rest : List Char}

theorem Ends.head_not_digit (ends : Ends rest) : (rest.head?.map isDigit).getD false = false := by
  cases rest with
  | nil => rfl
  | cons letter rest =>
      have stop := ends letter rfl
      simp_all [continues]

/-- Digits before the end of a number are all of its digits. -/
theorem digits_append (letters : List Char) (ends : Ends rest) :
    digits (letters ++ rest) = digits letters ∧
      afterDigits (letters ++ rest) = afterDigits letters ++ rest := by
  induction letters with
  | nil =>
      cases rest with
      | nil => exact ⟨rfl, rfl⟩
      | cons letter rest =>
          have stop : isDigit letter = false := ends.head_not_digit
          simp [digits, afterDigits, stop]
  | cons letter letters inductionHypothesis =>
      simp only [digits, afterDigits] at inductionHypothesis ⊢
      cases digit : isDigit letter <;> simp [digit, inductionHypothesis]

theorem someDigits_append {found : List Nat} (read : someDigits letters = .ok (found, tail))
    (ends : Ends rest) : someDigits (letters ++ rest) = .ok (found, tail ++ rest) := by
  cases letters with
  | nil => contradiction
  | cons letter letters =>
      rw [someDigits] at read
      obtain ⟨same, after⟩ := digits_append (letter :: letters) ends
      rw [List.cons_append] at same after ⊢
      rw [someDigits, same, after]
      split at read
      · rename_i digit
        obtain ⟨rfl, rfl⟩ := Prod.mk.inj (Except.ok.inj read)
        rw [if_pos digit]
      · contradiction

theorem readWhole_append {found : List Nat} (read : readWhole letters = .ok (found, tail))
    (ends : Ends rest) : readWhole (letters ++ rest) = .ok (found, tail ++ rest) := by
  unfold readWhole at read
  split at read
  · rename_i after
    split at read
    · contradiction
    · rename_i alone
      obtain ⟨rfl, rfl⟩ := Prod.mk.inj (Except.ok.inj read)
      have stop : ((after ++ rest).head?.map isDigit).getD false = false := by
        cases after with
        | nil => exact ends.head_not_digit
        | cons letter after => exact Bool.eq_false_iff.mpr alone
      rw [List.cons_append, readWhole, stop]
      rfl
  · rename_i other
    cases letters with
    | nil => contradiction
    | cons letter letters =>
        have grown := someDigits_append read ends
        rw [List.cons_append] at grown ⊢
        rw [readWhole, grown]
        intro after same
        exact other letters (by rw [(List.cons.inj same).1])

theorem readFraction_append {found : Option (List Nat)}
    (read : readFraction letters = .ok (found, tail)) (ends : Ends rest) :
    readFraction (letters ++ rest) = .ok (found, tail ++ rest) := by
  cases letters with
  | nil =>
      obtain ⟨rfl, rfl⟩ := Prod.mk.inj (Except.ok.inj read)
      rw [List.nil_append, readFraction]
      rintro after rfl
      have point := ends '.' rfl
      contradiction
  | cons letter letters =>
      rw [List.cons_append]
      by_cases point : letter = '.'
      · subst point
        rw [readFraction] at read ⊢
        cases digits : someDigits letters with
        | error flaw =>
            rw [digits] at read
            contradiction
        | ok pair =>
            rw [digits] at read
            obtain ⟨rfl, rfl⟩ := Prod.mk.inj (Except.ok.inj read)
            rw [someDigits_append digits ends]
            rfl
      · rw [readFraction] at read ⊢
        · obtain ⟨rfl, rfl⟩ := Prod.mk.inj (Except.ok.inj read)
          rfl
        all_goals
          intro after same
          exact point (List.cons.inj same).1

theorem sign_append {letters : List Char} (given : letters ≠ []) (rest : List Char) :
    sign (letters ++ rest) = ((sign letters).1, (sign letters).2 ++ rest) := by
  cases letters with
  | nil => contradiction
  | cons letter letters =>
      by_cases plus : letter = '+'
      · simp [sign, plus]
      · by_cases minus : letter = '-'
        · simp [sign, minus]
        · simp [sign, plus, minus]

theorem readExponent_append {found : Option Int}
    (read : readExponent letters = .ok (found, tail)) (ends : Ends rest) :
    readExponent (letters ++ rest) = .ok (found, tail ++ rest) := by
  cases letters with
  | nil =>
      obtain ⟨rfl, rfl⟩ := Prod.mk.inj (Except.ok.inj read)
      cases rest with
      | nil => rfl
      | cons letter rest =>
          have stop := ends letter rfl
          have other : ¬ (letter = 'e' ∨ letter = 'E') := by
            rintro (rfl | rfl) <;> contradiction
          rw [List.nil_append, readExponent, if_neg other]
  | cons letter letters =>
      rw [readExponent] at read
      rw [List.cons_append, readExponent]
      split at read
      · rename_i exponent
        cases digits : someDigits (sign letters).2 with
        | error flaw => simp [digits, Except.map] at read
        | ok pair =>
            have given : letters ≠ [] := by
              rintro rfl
              contradiction
            simp only [digits, Except.map, Except.ok.injEq, Prod.mk.injEq] at read
            obtain ⟨rfl, rfl⟩ := read
            rw [if_pos exponent, sign_append given]
            simp only [someDigits_append digits ends, Except.map]
      · rename_i other
        obtain ⟨rfl, rfl⟩ := Prod.mk.inj (Except.ok.inj read)
        rw [if_neg other]
        rfl

theorem unsigned_append {negative : Bool} {numeral : Numeral}
    (read : unsigned negative letters = .ok (numeral, tail)) (ends : Ends rest) :
    unsigned negative (letters ++ rest) = .ok (numeral, tail ++ rest) := by
  rw [unsigned] at read ⊢
  cases first : readWhole letters with
  | error flaw => simp [first, bind, Except.bind] at read
  | ok whole =>
      cases second : readFraction whole.2 with
      | error flaw => simp [first, second, bind, Except.bind] at read
      | ok fraction =>
          cases third : readExponent fraction.2 with
          | error flaw => simp [first, second, third, bind, Except.bind] at read
          | ok exponent =>
              simp only [first, second, third, bind, Except.bind, pure, Except.pure,
                Except.ok.injEq, Prod.mk.injEq] at read
              obtain ⟨rfl, rfl⟩ := read
              simp only [readWhole_append first ends, readFraction_append second ends,
                readExponent_append third ends, bind, Except.bind, pure, Except.pure]

/-- What is read of a number does not depend on what comes after its end. -/
theorem read_append {numeral : Numeral} (found : read letters = .ok (numeral, tail))
    (ends : Ends rest) : read (letters ++ rest) = .ok (numeral, tail ++ rest) := by
  cases letters with
  | nil => contradiction
  | cons letter letters =>
      rw [List.cons_append]
      by_cases minus : letter = '-'
      · subst minus
        exact unsigned_append found ends
      · have positive : read (letter :: letters) = unsigned false (letter :: letters) := by
          simp [read, minus]
        have same : read (letter :: (letters ++ rest)) =
            unsigned false (letter :: letters ++ rest) := by
          simp [read, minus]
        rw [same]
        exact unsigned_append (positive ▸ found) ends

/-- A number that a scan finds was read to its end. -/
theorem read_of_scan {number : Number} (found : scan letters = (.exact number, tail)) :
    ∃ numeral : Numeral, read letters = .ok (numeral, tail) ∧ numeral.number? = some number := by
  rw [scan] at found
  cases taken : read letters with
  | error flaw => simp [taken] at found
  | ok pair =>
      obtain ⟨numeral, after⟩ := pair
      cases value : numeral.number? with
      | none => simp [taken, value] at found
      | some same =>
          simp only [taken, value, Prod.mk.injEq, Written.exact.injEq] at found
          obtain ⟨rfl, rfl⟩ := found
          exact ⟨numeral, rfl, value⟩

theorem scan_append {number : Number} (found : scan letters = (.exact number, [])) (ends : Ends rest) :
    scan (letters ++ rest) = (.exact number, rest) := by
  obtain ⟨numeral, taken, value⟩ := read_of_scan found
  rw [scan, read_append taken ends]
  simp only [value, List.nil_append]

/-- A number starts with a minus sign or a digit. -/
theorem starts_of_scan {number : Number} (found : scan letters = (.exact number, tail)) :
    ∃ letter others, letters = letter :: others ∧ (letter = '-' ∨ isDigit letter = true) := by
  obtain ⟨numeral, taken, _⟩ := read_of_scan found
  cases letters with
  | nil => contradiction
  | cons letter letters =>
      refine ⟨letter, letters, rfl, ?_⟩
      by_cases minus : letter = '-'
      · exact .inl minus
      · by_cases digit : isDigit letter = true
        · exact .inr digit
        · have zero : letter ≠ '0' := by
            rintro rfl
            contradiction
          have broken : readWhole (letter :: letters) = .error .badNumber := by
            simp [readWhole, zero, someDigits, digit]
          simp [read, minus, unsigned, broken, bind, Except.bind] at taken

end Append

section Integer

/-- The digits of a number in its decimal text. -/
theorem ofDigits_toDigits (value : Nat) :
    ofDigits ((Nat.toDigits 10 value).map digitValue) = value := by
  rw [ofDigits, List.foldl_map]
  exact Nat.ofDigitChars_ten_toDigits

theorem isDigit_of_mem_toDigits {value : Nat} {letter : Char}
    (member : letter ∈ Nat.toDigits 10 value) : isDigit letter = true := by
  have digit := Nat.isDigit_of_mem_toDigits (by decide) (by decide) member
  simpa [Char.isDigit, isDigit, Char.le_def] using digit

/-- Only zero is written with a zero in front. -/
theorem head_toDigits {value : Nat} (positive : 0 < value) (rest : List Char) :
    Nat.toDigits 10 value ≠ '0' :: rest := by
  induction value using Nat.strongRecOn generalizing rest with
  | ind value inductionHypothesis =>
      by_cases small : value < 10
      · rw [Nat.toDigits_of_lt_base small]
        intro same
        have code := Nat.toNat_digitChar_of_lt_ten small
        rw [(List.cons.inj same).1] at code
        change 48 = 48 + value at code
        omega
      · rw [Nat.toDigits_of_base_le (by decide) (by omega)]
        intro same
        cases front : Nat.toDigits 10 (value / 10) with
        | nil => exact Nat.toDigits_ne_nil front
        | cons letter letters =>
            rw [front] at same
            have first : letter = '0' := (List.cons.inj same).1
            exact inductionHypothesis (value / 10) (by omega) (by omega) letters (first ▸ front)

/-- The value of a significand only grows with its digits. -/
theorem le_foldl_digits (significand : Nat) (digits : List Nat) :
    significand ≤ digits.foldl (fun value digit => 10 * value + digit) significand := by
  induction digits generalizing significand with
  | nil => exact Nat.le_refl _
  | cons digit digits inductionHypothesis =>
      exact Nat.le_trans (by omega) (inductionHypothesis (10 * significand + digit))

/-- All digits join a significand that stays small. -/
theorem absorb_of_small {significand : Nat} {digits : List Nat}
    (small : digits.foldl (fun value digit => 10 * value + digit) significand < UInt64.size) :
    absorb significand digits =
      (digits.foldl (fun value digit => 10 * value + digit) significand, []) := by
  induction digits generalizing significand with
  | nil => rfl
  | cons digit digits inductionHypothesis =>
      have within : 10 * significand + digit < UInt64.size :=
        Nat.lt_of_le_of_lt (le_foldl_digits _ digits) small
      rw [absorb, if_pos within]
      exact inductionHypothesis small

theorem absorb_lt {significand : Nat} (small : significand < UInt64.size) (digits : List Nat) :
    (absorb significand digits).1 < UInt64.size := by
  induction digits generalizing significand with
  | nil => exact small
  | cons digit digits inductionHypothesis =>
      rw [absorb]
      split
      · rename_i within
        exact inductionHypothesis within
      · exact small

/-- The integers of 64 bits, signed or unsigned. -/
def Fits (value : Int) : Prop := -(UInt64.size / 2 : Nat) ≤ value ∧ value < UInt64.size

theorem fits_of_number? {numeral : Numeral} {value : Int}
    (found : numeral.number? = some (.integer value)) : Fits value := by
  have whole : numeral.integer? = some value := by
    rw [number?] at found
    cases whole : numeral.integer? with
    | none => simp [whole] at found
    | some same => simpa [whole] using found
  rw [integer?] at whole
  split at whole
  · rename_i magnitude _ _ taken
    have small := @absorb_lt 0 (by decide) numeral.whole
    rw [taken] at small
    have bound : UInt64.size = 2 ^ 64 := rfl
    rw [Fits]
    split at whole
    · obtain rfl := Option.some.inj whole
      omega
    · obtain ⟨within, same⟩ := Option.ite_none_right_eq_some.mp whole
      obtain rfl := Option.some.inj same
      omega
  · contradiction

/-- The decimal text of a natural number is one whole part. -/
theorem readWhole_toDigits (value : Nat) :
    readWhole (Nat.toDigits 10 value) = .ok ((Nat.toDigits 10 value).map digitValue, []) := by
  cases value with
  | zero => rfl
  | succ value =>
      have all : ∀ letter ∈ Nat.toDigits 10 (value + 1), isDigit letter = true :=
        fun letter => isDigit_of_mem_toDigits
      cases letters : Nat.toDigits 10 (value + 1) with
      | nil => exact absurd letters Nat.toDigits_ne_nil
      | cons letter rest =>
          have whole : readWhole (letter :: rest) = someDigits (letter :: rest) := by
            have other : letter ≠ '0' := by
              rintro rfl
              exact head_toDigits (Nat.succ_pos value) rest letters
            simp [readWhole, other]
          rw [letters] at all
          rw [whole, someDigits, if_pos (all letter List.mem_cons_self), digits, afterDigits,
            List.takeWhile_eq_self_iff.mpr all, List.dropWhile_eq_nil_iff.mpr all]

theorem unsigned_toDigits (negative : Bool) (value : Nat) :
    unsigned negative (Nat.toDigits 10 value) =
      .ok (⟨negative, (Nat.toDigits 10 value).map digitValue, none, none⟩, []) := by
  rw [unsigned, readWhole_toDigits]
  rfl

/-- The sign and the digits of an integer of 64 bits stand for it. -/
theorem number?_toDigits {negative : Bool} {magnitude : Nat} {value : Int} (fits : Fits value)
    (same : value = if negative then -(magnitude : Int) else magnitude)
    (positive : negative = true → 0 < magnitude) :
    Numeral.number? ⟨negative, (Nat.toDigits 10 magnitude).map digitValue, none, none⟩ =
      some (.integer value) := by
  have bound : UInt64.size = 2 ^ 64 := rfl
  have total : ((Nat.toDigits 10 magnitude).map digitValue).foldl
      (fun value digit => 10 * value + digit) 0 = magnitude := ofDigits_toDigits magnitude
  rw [Fits] at fits
  have small : magnitude < UInt64.size := by
    cases negative <;> simp at same <;> omega
  have taken : absorb 0 ((Nat.toDigits 10 magnitude).map digitValue) = (magnitude, []) := by
    rw [absorb_of_small (by rwa [total]), total]
  cases negative with
  | false => simp [number?, integer?, taken, same]
  | true =>
      have within : 0 < magnitude ∧ 2 * magnitude ≤ UInt64.size := by
        simp at same positive
        omega
      simp [number?, integer?, taken, same, within]

/-- An integer of 64 bits is read back from its text. -/
theorem scan_integer {value : Int} (fits : Fits value) :
    scan (toString value).toList = (.exact (.integer value), []) := by
  cases value with
  | ofNat magnitude =>
      have letters : (toString (Int.ofNat magnitude)).toList = Nat.toDigits 10 magnitude :=
        Nat.toList_repr
      have first : read (Nat.toDigits 10 magnitude) = unsigned false (Nat.toDigits 10 magnitude) := by
        rw [read]
        intro rest same
        have digit := isDigit_of_mem_toDigits (same ▸ List.mem_cons_self)
        contradiction
      rw [letters, scan, first, unsigned_toDigits]
      simp only [@number?_toDigits false _ _ fits rfl nofun]
  | negSucc magnitude =>
      have letters : (toString (Int.negSucc magnitude)).toList =
          '-' :: Nat.toDigits 10 (magnitude + 1) := by
        have signed : toString (Int.negSucc magnitude) = "-" ++ Nat.repr (magnitude + 1) := rfl
        rw [signed, String.toList_append, Nat.toList_repr]
        rfl
      rw [letters, scan, read, unsigned_toDigits]
      simp only [@number?_toDigits true _ _ fits rfl (fun _ => Nat.succ_pos magnitude)]

end Integer

end Playback.Json.Numeral
