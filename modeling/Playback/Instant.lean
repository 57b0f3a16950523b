namespace Playback

namespace Calendar

/-- The number of the day, counted from the first day of 1970. -/
def dayOf (year month day : Int) : Int :=
  let year := if month ≤ 2 then year - 1 else year
  let era := year / 400
  let yearOfEra := year % 400
  let dayOfYear := (153 * ((month + 9) % 12) + 2) / 5 + day - 1
  let dayOfEra := 365 * yearOfEra + yearOfEra / 4 - yearOfEra / 100 + dayOfYear
  146097 * era + dayOfEra - 719468

/-- The year, the month and the day of a day number. -/
def dateOf (day : Int) : Int × Int × Int :=
  let shifted := day + 719468
  let era := shifted / 146097
  let dayOfEra := shifted % 146097
  let yearOfEra :=
    (dayOfEra - dayOfEra / 1460 + dayOfEra / 36524 - dayOfEra / 146096) / 365
  let dayOfYear := dayOfEra - (365 * yearOfEra + yearOfEra / 4 - yearOfEra / 100)
  let shiftedMonth := (5 * dayOfYear + 2) / 153
  let month := if shiftedMonth < 10 then shiftedMonth + 3 else shiftedMonth - 9
  let year := 400 * era + yearOfEra
  (if month ≤ 2 then year + 1 else year, month, dayOfYear - (153 * shiftedMonth + 2) / 5 + 1)

def isLeapYear (year : Int) : Bool :=
  year % 4 == 0 && (year % 100 != 0 || year % 400 == 0)

def monthLength (year month : Int) : Int :=
  if month = 2 then if isLeapYear year then 29 else 28
  else if month = 4 ∨ month = 6 ∨ month = 9 ∨ month = 11 then 30
  else 31

def firstYear : Int := -262143

def lastYear : Int := 262142

def firstDay : Int := dayOf firstYear 1 1

def lastDay : Int := dayOf lastYear 12 31

end Calendar

/-- A leap second counts as more nanoseconds of the last second of a minute. -/
structure Instant where
  day : Int
  second : Nat
  nano : Nat
  dayKnown : Calendar.firstDay ≤ day ∧ day ≤ Calendar.lastDay
  secondSmall : second < 86400
  nanoSmall : nano < 2000000000
  leap : nano < 1000000000 ∨ second % 60 = 59
deriving DecidableEq

namespace Instant

/-- The first instant of 1970. -/
def epoch : Instant where
  day := 0
  second := 0
  nano := 0
  dayKnown := by decide
  secondSmall := by decide
  nanoSmall := by decide
  leap := by decide

def ofParts? (day : Int) (second nano : Nat) : Option Instant :=
  if known : Calendar.firstDay ≤ day ∧ day ≤ Calendar.lastDay then
    if secondSmall : second < 86400 then
      if nanoSmall : nano < 2000000000 then
        if leap : nano < 1000000000 ∨ second % 60 = 59 then
          some ⟨day, second, nano, known, secondSmall, nanoSmall, leap⟩
        else none
      else none
    else none
  else none

/-- A decimal with at least the given number of digits. -/
def padded (width value : Nat) : String :=
  let digits := toString value
  String.ofList (List.replicate (width - digits.length) '0') ++ digits

/-- Years of more than four digits and years before the year zero carry a sign. -/
def yearText (year : Int) : String :=
  if 0 ≤ year ∧ year ≤ 9999 then padded 4 year.toNat
  else (if year < 0 then "-" else "+") ++ padded 4 year.natAbs

/-- A fraction has three, six or nine digits. -/
def fractionText (nano : Nat) : String :=
  if nano = 0 then ""
  else if nano % 1000000 = 0 then "." ++ padded 3 (nano / 1000000)
  else if nano % 1000 = 0 then "." ++ padded 6 (nano / 1000)
  else "." ++ padded 9 nano

def text (instant : Instant) : String :=
  let (year, month, day) := Calendar.dateOf instant.day
  let leap := instant.nano / 1000000000
  yearText year ++ "-" ++ padded 2 month.toNat ++ "-" ++ padded 2 day.toNat ++ "T" ++
    padded 2 (instant.second / 3600) ++ ":" ++ padded 2 (instant.second / 60 % 60) ++ ":" ++
    padded 2 (instant.second % 60 + leap) ++ fractionText (instant.nano % 1000000000) ++ "Z"

/-- A leap second before the other time of day is one second more. -/
def leapBetween (start finish : Instant) : Int :=
  if start.second < finish.second ∧ 1000000000 ≤ start.nano then 1
  else if finish.second < start.second ∧ 1000000000 ≤ finish.nano then -1
  else 0

/-- The nanoseconds from one instant to another. -/
def nanosBetween (start finish : Instant) : Int :=
  ((finish.day - start.day) * 86400 + (finish.second - start.second : Int) +
    leapBetween start finish) * 1000000000 + (finish.nano - start.nano : Int)

/-- The nanoseconds that have passed, unless the end comes before the start. -/
def elapsed? (start finish : Instant) : Option Nat :=
  let nanos := nanosBetween start finish
  if 0 ≤ nanos then some nanos.toNat else none

end Instant

/-- The whole milliseconds in a number of nanoseconds. -/
def milliseconds (nanos : Nat) : Nat := nanos / 1000000

end Playback
