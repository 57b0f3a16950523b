import Playback.Binary

namespace Playback.Decimal

/-- The decimal `digits * 10 ^ place`. -/
structure Point where
  digits : Nat
  place : Int

/-- The reals that round to one magnitude, as quarters of a unit. -/
structure Interval where
  low : Nat
  value : Nat
  high : Nat
  closed : Bool

/-- The lower neighbour of a power of two is nearer than the upper one. -/
def interval (precision : Precision) (significand scale : Nat) : Interval :=
  let unit := Nat.pow 2 scale
  let narrow := significand = Nat.pow 2 (precision.digits - 1) ∧ 0 < scale
  let value := 4 * significand * unit
  ⟨value - (if narrow then unit else 2 * unit), value, value + 2 * unit, significand % 2 == 0⟩

def Interval.holds (interval : Interval) (position : Nat) : Bool :=
  if interval.closed then interval.low ≤ position && position ≤ interval.high
  else interval.low < position && position < interval.high

/-- The interval is stretched by a common factor. -/
def Interval.stretch (interval : Interval) (factor : Nat) : Interval :=
  { interval with
    low := interval.low * factor
    value := interval.value * factor
    high := interval.high * factor }

/-- The multiple of the step inside the interval that is nearest to the value, if there is one. -/
def Interval.choose (interval : Interval) (step : Nat) : Option Nat :=
  let below := interval.value / step
  let above := below + 1
  match interval.holds (below * step), interval.holds (above * step) with
  | true, true =>
      let left := interval.value - below * step
      let right := above * step - interval.value
      some (if left < right ∨ (left = right ∧ below % 2 = 0) then below else above)
  | true, false => some below
  | false, true => some above
  | false, false => none

/-- The grid of the multiples of `10 ^ place` is searched for a point of the interval. -/
def pointAt (interval : Interval) (quarters : Nat) (place : Int) : Option Point :=
  let chosen := if 0 ≤ place then interval.choose (quarters * Nat.pow 10 place.toNat)
    else (interval.stretch (Nat.pow 10 (-place).toNat)).choose quarters
  chosen.map fun digits => ⟨digits, place⟩

/-- Grids are tried from the coarsest to finer ones. -/
def search (interval : Interval) (quarters : Nat) : Nat → Int → Point
  | 0, place => ⟨0, place⟩
  | count + 1, place =>
      match pointAt interval quarters place with
      | some point => point
      | none => search interval quarters count (place - 1)

/-- A power of ten that is not below the value. -/
def ceilingPlace (value quarters : Nat) : Int :=
  ((value.log2 : Int) + 1 - quarters.log2) * 30103 / 100000 + 2

/-- The shortest decimal of a finite magnitude. -/
def shortest (precision : Precision) (significand scale : Nat) : Point :=
  let quarters := 4 * Nat.pow 2 precision.lowest
  let interval := interval precision significand scale
  search interval quarters (precision.digits + 3) (ceilingPlace interval.value quarters)

/-- Values from `10 ^ low` up to `10 ^ high` are written without an exponent. -/
structure Style where
  low : Int
  high : Int

def Style.single : Style := ⟨-6, 13⟩

def Style.double : Style := ⟨-5, 16⟩

def zeros (count : Nat) : String := String.ofList (List.replicate count '0')

/-- A positional text has a digit on each side of the point. -/
def positional (digits : List Char) (front : Int) : String :=
  if front ≤ 0 then "0." ++ zeros (-front).toNat ++ String.ofList digits
  else if (digits.length : Int) ≤ front then
    String.ofList digits ++ zeros (front.toNat - digits.length) ++ ".0"
  else
    String.ofList (digits.take front.toNat) ++ "." ++ String.ofList (digits.drop front.toNat)

def signed (exponent : Int) : String :=
  (if exponent < 0 then "-" else "+") ++ toString exponent.natAbs

/-- An exponential text has one digit before the point, which it keeps only for more digits. -/
def exponential (digits : List Char) (front : Int) : String :=
  String.ofList (digits.take 1) ++
    (if digits.length ≤ 1 then "" else "." ++ String.ofList (digits.drop 1)) ++
    "e" ++ signed (front - 1)

def Point.text (point : Point) (style : Style) : String :=
  let digits := Nat.toDigits 10 point.digits
  let front := digits.length + point.place
  if style.low < front ∧ front ≤ style.high then positional digits front
  else exponential digits front

end Playback.Decimal

namespace Playback.Binary

/-- Infinite values have no decimal text. -/
def decimal? {precision : Precision} (style : Decimal.Style) (value : Binary precision) :
    Option String :=
  match value.magnitude with
  | .infinite => none
  | .finite significand scale =>
      let text := if significand = 0 then "0.0"
        else (Decimal.shortest precision significand scale).text style
      some (if value.negative then "-" ++ text else text)

end Playback.Binary
