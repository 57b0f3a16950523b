import Playback.Instant
import Playback.Text.Blank

namespace Playback.Instant

open Text

inductive Fault where
  | endOfText
  | badLetter
  | outOfRange
  | impossible
  | trailingText
deriving DecidableEq

def Fault.message : Fault → String
  | .endOfText => "premature end of input"
  | .badLetter => "input contains invalid characters"
  | .outOfRange => "input is out of range"
  | .impossible => "no possible date and time matching input"
  | .trailingText => "trailing input"

/-- A scanner returns its result and the letters after it. -/
abbrev Scanner (A : Type) := List Char → Except Fault (A × List Char)

def isDigit (letter : Char) : Bool := '0' ≤ letter && letter ≤ '9'

def ofDigits (digits : List Char) : Nat :=
  digits.foldl (fun value digit => 10 * value + (digit.toNat - 48)) 0

/-- At least one digit, and at most the given number of them. -/
def digits (letters : List Char) (limit : Nat) : Except Fault (List Char × List Char) :=
  match letters with
  | [] => .error .endOfText
  | letter :: _ =>
      if isDigit letter then
        let found := (letters.take limit).takeWhile isDigit
        .ok (found, letters.drop found.length)
      else .error .badLetter

def number (limit : Nat) : Scanner Nat := fun letters => do
  let (found, rest) ← digits letters limit
  let value := ofDigits found
  if 2 * value < UInt64.size then return (value, rest) else .error .outOfRange

def bounded (low high : Int) (value : Int) : Except Fault Int :=
  if low ≤ value ∧ value ≤ high then .ok value else .error .outOfRange

/-- A year has up to four digits, or any number of digits after a sign. -/
def year : Scanner Int := fun letters => do
  let (value, rest) ←
    match dropBlanks letters with
    | '-' :: rest => do
        let (value, rest) ← number rest.length rest
        pure (-(value : Int), rest)
    | '+' :: rest => do
        let (value, rest) ← number rest.length rest
        pure ((value : Int), rest)
    | letters => do
        let (value, rest) ← number 4 letters
        pure ((value : Int), rest)
  return (← bounded (-2147483648) 2147483647 value, rest)

/-- A number of one or two digits within bounds. -/
def part (low high : Int) : Scanner Int := fun letters => do
  let (value, rest) ← number 2 (dropBlanks letters)
  return (← bounded low high value, rest)

def literal (expected : Char) (letters : List Char) : Except Fault (List Char) :=
  match dropBlanks letters with
  | [] => .error .endOfText
  | letter :: rest => if letter = expected then .ok rest else .error .badLetter

/-- The date and the time of day are parted by a letter or a space. -/
def parting : List Char → Except Fault (List Char)
  | [] => .error .endOfText
  | letter :: rest =>
      if letter = 'T' ∨ letter = 't' ∨ letter = ' ' then .ok rest else .error .badLetter

/-- Nine digits of a fraction count, and the others are dropped. -/
def fraction : Scanner Nat := fun letters =>
  match letters with
  | '.' :: rest => do
      let (found, rest) ← digits rest 9
      return (ofDigits found * Nat.pow 10 (9 - found.length), rest.dropWhile isDigit)
  | letters => .ok (0, letters)

/-- Two bytes must follow. -/
def twoLetters (letters : List Char) : Except Fault (Char × Char × List Char) :=
  match letters with
  | first :: second :: rest => .ok (first, second, rest)
  | [only] => if only.utf8Size < 2 then .error .endOfText else .error .badLetter
  | [] => .error .endOfText

def hours : Scanner Int := fun letters => do
  let (tens, ones, rest) ← twoLetters letters
  if isDigit tens && isDigit ones then return (ofDigits [tens, ones], rest)
  else .error .badLetter

def minutes : Scanner Int := fun letters => do
  let (tens, ones, rest) ← twoLetters letters
  if isDigit tens && isDigit ones then
    if tens ≤ '5' then return (ofDigits [tens, ones], rest) else .error .outOfRange
  else .error .badLetter

def isSeparator (letter : Char) : Bool := letter == ':' || isBlank letter

def signedOffset (sign : Int) : Scanner Int := fun letters => do
  let (hours, rest) ← hours letters
  let (minutes, rest) ← minutes (rest.dropWhile isSeparator)
  return (sign * (3600 * hours + 60 * minutes), rest)

/-- Universal time goes by the name `UTC` in letters of both cases. -/
def isUniversal (letters : List Char) : Bool :=
  match letters with
  | first :: second :: third :: _ =>
      (first == 'U' || first == 'u') && (second == 'T' || second == 't') &&
        (third == 'C' || third == 'c')
  | _ => false

/-- The offset in seconds. The minus sign may also be the mathematical one. -/
def offset : Scanner Int := fun letters =>
  if isUniversal letters then .ok (0, letters.drop 3)
  else
    match letters with
    | [] => .error .endOfText
    | letter :: rest =>
        if letter = 'Z' ∨ letter = 'z' then .ok (0, rest)
        else if letter = '+' then signedOffset 1 rest
        else if letter = '-' ∨ letter = '\u2212' then signedOffset (-1) rest
        else .error .badLetter

/-- The parts of an instant as they are written. -/
structure Written where
  year : Int
  month : Int
  day : Int
  hour : Int
  minute : Int
  second : Int
  nano : Nat
  offset : Int

def written : Scanner Written := fun letters => do
  let (year, rest) ← year letters
  let (month, rest) ← part 1 12 (← literal '-' rest)
  let (day, rest) ← part 1 31 (← literal '-' rest)
  let (hour, rest) ← part 0 23 (← parting rest)
  let (minute, rest) ← part 0 59 (← literal ':' rest)
  let (second, rest) ← part 0 60 (← literal ':' rest)
  let (nano, rest) ← fraction rest
  let (offset, rest) ← offset (dropBlanks rest)
  return (⟨year, month, day, hour, minute, second, nano, offset⟩, rest)

/-- The date must exist, and so must the day in universal time. -/
def Written.instant (written : Written) : Except Fault Instant :=
  if Calendar.firstYear ≤ written.year ∧ written.year ≤ Calendar.lastYear ∧
      written.day ≤ Calendar.monthLength written.year written.month then
    if -86400 < written.offset ∧ written.offset < 86400 then
      let leap := written.second = 60
      let second := if leap then 59 else written.second
      let nano := if leap then written.nano + 1000000000 else written.nano
      let clock := 3600 * written.hour + 60 * written.minute + second - written.offset
      let day := Calendar.dayOf written.year written.month written.day + clock / 86400
      match ofParts? day (clock % 86400).toNat nano with
      | some instant => .ok instant
      | none => .error .impossible
    else .error .outOfRange
  else .error .outOfRange

def ofText (text : String) : Except Fault Instant := do
  let (written, rest) ← written text.toList
  if (dropBlanks rest).isEmpty then written.instant else .error .trailingText

end Playback.Instant
