/-
This file computes with binary floating point values by exact arithmetic on natural numbers.
-/

namespace Playback

/-- A precision fixes the bits of a significand, the least unit `2 ^ -lowest` and the bound
`2 ^ highest` of the finite values. -/
structure Precision where
  digits : Nat
  lowest : Nat
  highest : Nat
deriving DecidableEq

namespace Precision

def single : Precision := ⟨24, 149, 128⟩

def double : Precision := ⟨53, 1074, 1024⟩

end Precision

/-- A finite magnitude is `significand * 2 ^ scale` units. -/
inductive Magnitude where
  | finite (significand scale : Nat)
  | infinite
deriving DecidableEq

/-- The quotient goes to the nearest whole number, and a half goes to the even one. -/
def nearestQuotient (dividend divisor : Nat) : Nat :=
  let quotient := dividend / divisor
  let remainder := dividend % divisor
  if divisor < 2 * remainder ∨ (divisor = 2 * remainder ∧ quotient % 2 = 1) then quotient + 1
  else quotient

namespace Magnitude

def zero : Magnitude := .finite 0 0

def isZero : Magnitude → Bool
  | .finite significand _ => significand == 0
  | .infinite => false

def isFinite : Magnitude → Bool
  | .finite _ _ => true
  | .infinite => false

/-- The number of least units in a finite magnitude. -/
def units : Magnitude → Nat
  | .finite significand scale => significand * Nat.pow 2 scale
  | .infinite => 0

/-- A significand that has grown by one bit moves to the next scale, and a value beyond the
bound is infinite. -/
def settle (precision : Precision) (significand scale : Nat) : Magnitude :=
  let grown := significand = Nat.pow 2 precision.digits
  let significand := if grown then Nat.pow 2 (precision.digits - 1) else significand
  let scale := if grown then scale + 1 else scale
  if Nat.pow 2 (precision.highest + precision.lowest) ≤ significand * Nat.pow 2 scale then .infinite
  else .finite significand scale

/-- The magnitude that is nearest to a quotient. -/
def nearest (precision : Precision) (dividend divisor : Nat) : Magnitude :=
  let dividend := dividend * Nat.pow 2 precision.lowest
  let scale := (dividend / divisor).log2 + 1 - precision.digits
  settle precision (nearestQuotient dividend (divisor * Nat.pow 2 scale)) scale

def times (precision : Precision) (left right : Magnitude) : Magnitude :=
  if left.isFinite && right.isFinite then
    nearest precision (left.units * right.units) (Nat.pow 2 (2 * precision.lowest))
  else .infinite

def dividedBy (precision : Precision) (left right : Magnitude) : Magnitude :=
  if left.isFinite && right.isFinite then nearest precision left.units right.units
  else .infinite

/-- The value is kept as nearly as the other precision allows. -/
def convert (source target : Precision) : Magnitude → Magnitude
  | .finite significand scale =>
      nearest target (significand * Nat.pow 2 scale) (Nat.pow 2 source.lowest)
  | .infinite => .infinite

end Magnitude

/-- A signed value of one precision. -/
structure Binary (precision : Precision) where
  negative : Bool
  magnitude : Magnitude
deriving DecidableEq

namespace Binary

abbrev Single := Binary .single

abbrev Double := Binary .double

def ofNat (precision : Precision) (value : Nat) : Binary precision :=
  ⟨false, Magnitude.nearest precision value 1⟩

def ofInt (precision : Precision) (value : Int) : Binary precision :=
  ⟨decide (value < 0), Magnitude.nearest precision value.natAbs 1⟩

def convert {source : Precision} (target : Precision) (value : Binary source) : Binary target :=
  ⟨value.negative, value.magnitude.convert source target⟩

end Binary

end Playback
