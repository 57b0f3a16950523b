import Playback.Json.Flaw
import Playback.Json.Number

namespace Playback.Json

/-- A number as it stands in a text. One beyond the greatest double can be skipped. -/
inductive Written where
  | exact (number : Number)
  | tooLarge
  | broken (reading : Flaw)
deriving DecidableEq

namespace Numeral

def isDigit (letter : Char) : Bool := '0' ≤ letter && letter ≤ '9'

def digitValue (letter : Char) : Nat := letter.toNat - 48

def digits (letters : List Char) : List Nat := (letters.takeWhile isDigit).map digitValue

def afterDigits (letters : List Char) : List Char := letters.dropWhile isDigit

/-- Digits must come next. -/
def someDigits (letters : List Char) : Except Flaw (List Nat × List Char) :=
  match letters with
  | [] => .error .endInValue
  | letter :: _ =>
      if isDigit letter then .ok (digits letters, afterDigits letters) else .error .badNumber

/-- A zero in front stands alone. -/
def readWhole (letters : List Char) : Except Flaw (List Nat × List Char) :=
  match letters with
  | '0' :: rest =>
      if (rest.head?.map isDigit).getD false then .error .badNumber else .ok ([0], rest)
  | letters => someDigits letters

def readFraction (letters : List Char) : Except Flaw (Option (List Nat) × List Char) :=
  match letters with
  | '.' :: rest => (someDigits rest).map fun (digits, rest) => (some digits, rest)
  | letters => .ok (none, letters)

def sign (letters : List Char) : Bool × List Char :=
  match letters with
  | '+' :: rest => (false, rest)
  | '-' :: rest => (true, rest)
  | letters => (false, letters)

def ofDigits (digits : List Nat) : Nat := digits.foldl (fun value digit => 10 * value + digit) 0

/-- Both cases of the exponent letter are read. -/
def readExponent (letters : List Char) : Except Flaw (Option Int × List Char) :=
  match letters with
  | letter :: rest =>
      if letter = 'e' ∨ letter = 'E' then
        let (negative, rest) := sign rest
        (someDigits rest).map fun (digits, rest) =>
          let value : Int := ofDigits digits
          (some (if negative then -value else value), rest)
      else .ok (none, letter :: rest)
  | [] => .ok (none, [])

def unsigned (negative : Bool) (letters : List Char) : Except Flaw (Numeral × List Char) := do
  let (whole, letters) ← readWhole letters
  let (fraction, letters) ← readFraction letters
  let (exponent, letters) ← readExponent letters
  return (⟨negative, whole, fraction, exponent⟩, letters)

/-- The letters start with a minus sign or a digit. -/
def read (letters : List Char) : Except Flaw (Numeral × List Char) :=
  match letters with
  | '-' :: rest => unsigned true rest
  | letters => unsigned false letters

theorem afterDigits_length (letters : List Char) :
    (afterDigits letters).length ≤ letters.length :=
  (List.dropWhile_suffix isDigit).length_le

theorem someDigits_length {letters : List Char} {pair : List Nat × List Char}
    (found : someDigits letters = .ok pair) : pair.2.length < letters.length := by
  unfold someDigits at found
  split at found
  · cases found
  · rename_i letter tail
    split at found
    · rename_i digit
      cases found
      have := afterDigits_length tail
      simp only [afterDigits, List.dropWhile_cons, digit, if_true, List.length_cons] at *
      omega
    · cases found

theorem readWhole_length {letters : List Char} {pair : List Nat × List Char}
    (found : readWhole letters = .ok pair) : pair.2.length < letters.length := by
  unfold readWhole at found
  split at found
  · split at found
    · cases found
    · cases found; simp
  · exact someDigits_length found

theorem readFraction_length {letters : List Char} {pair : Option (List Nat) × List Char}
    (found : readFraction letters = .ok pair) : pair.2.length ≤ letters.length := by
  unfold readFraction at found
  split at found
  · rename_i tail
    cases inner : someDigits tail with
    | error => simp [inner, Except.map] at found
    | ok digits =>
      have := someDigits_length inner
      simp only [inner, Except.map, Except.ok.injEq] at found
      subst found
      simp only [List.length_cons]
      omega
  · cases found; exact Nat.le_refl _

theorem sign_length (letters : List Char) : (sign letters).2.length ≤ letters.length := by
  unfold sign
  split <;> simp

theorem readExponent_length {letters : List Char} {pair : Option Int × List Char}
    (found : readExponent letters = .ok pair) : pair.2.length ≤ letters.length := by
  unfold readExponent at found
  split at found
  · rename_i letter tail
    split at found
    · have bound := sign_length tail
      cases inner : someDigits (sign tail).2 with
      | error => simp [inner, Except.map] at found
      | ok digits =>
        have := someDigits_length inner
        simp only [inner, Except.map, Except.ok.injEq] at found
        subst found
        simp only [List.length_cons]
        omega
    · cases found; exact Nat.le_refl _
  · cases found; exact Nat.le_refl _

theorem unsigned_length {negative : Bool} {letters : List Char} {pair : Numeral × List Char}
    (found : unsigned negative letters = .ok pair) : pair.2.length < letters.length := by
  unfold unsigned at found
  cases first : readWhole letters with
  | error => simp [first, bind, Except.bind] at found
  | ok front =>
    cases second : readFraction front.2 with
    | error => simp [first, second, bind, Except.bind] at found
    | ok middle =>
      cases third : readExponent middle.2 with
      | error => simp [first, second, third, bind, Except.bind] at found
      | ok last =>
        have one := readWhole_length first
        have two := readFraction_length second
        have three := readExponent_length third
        simp only [first, second, third, bind, Except.bind, pure, Except.pure,
          Except.ok.injEq] at found
        subst found
        simp only
        omega

theorem read_length {letters : List Char} {pair : Numeral × List Char}
    (found : read letters = .ok pair) : pair.2.length < letters.length := by
  unfold read at found
  split at found
  · have := unsigned_length found
    simp only [List.length_cons]
    omega
  · exact unsigned_length found

/-- A number and the letters after it. Nothing is left after a broken one. -/
def scan (letters : List Char) : Written × List Char :=
  match read letters with
  | .error flaw => (.broken flaw, [])
  | .ok (numeral, rest) =>
      match numeral.number? with
      | some number => (.exact number, rest)
      | none => (.tooLarge, rest)

theorem scan_length {letters : List Char} (nonempty : letters ≠ []) :
    (scan letters).2.length < letters.length := by
  unfold scan
  cases found : read letters with
  | error => simpa using List.length_pos_iff.mpr nonempty
  | ok pair =>
    have := read_length found
    simp only
    split <;> exact this

end Numeral

end Playback.Json
