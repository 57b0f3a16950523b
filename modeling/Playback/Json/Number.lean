import Playback.Binary.Decimal

namespace Playback.Json

inductive Number where
  | integer (value : Int)
  | double (value : Binary.Double)
  | single (value : Binary.Single)
deriving DecidableEq

namespace Number

/-- An infinite value is written as null. -/
def text : Number → String
  | .integer value => toString value
  | .double value => (value.decimal? .double).getD "null"
  | .single value => (value.decimal? .single).getD "null"

end Number

/-- The parts of a written number. -/
structure Numeral where
  negative : Bool
  whole : List Nat
  fraction : Option (List Nat)
  exponent : Option Int
deriving DecidableEq

namespace Numeral

/-- Digits join a significand as long as it stays below `2 ^ 64`; the other digits are returned. -/
def absorb (significand : Nat) : List Nat → Nat × List Nat
  | [] => (significand, [])
  | digit :: rest =>
      if 10 * significand + digit < UInt64.size then absorb (10 * significand + digit) rest
      else (significand, digit :: rest)

def greatestPower : Nat := 308

def power (exponent : Nat) : Magnitude := Magnitude.nearest .double (Nat.pow 10 exponent) 1

/-- A large power of ten is divided out in steps, until the value is zero. -/
def divided (value : Magnitude) (exponent : Nat) : Magnitude :=
  if exponent ≤ greatestPower then value.dividedBy .double (power exponent)
  else if value.isZero then value
  else divided (value.dividedBy .double (power greatestPower)) (exponent - greatestPower)
termination_by exponent
decreasing_by simp only [greatestPower] at *; omega

/-- A finite product, if there is one. -/
def multiplied? (value : Magnitude) (exponent : Nat) : Option Magnitude :=
  if exponent ≤ greatestPower then
    let product := value.times .double (power exponent)
    if product.isFinite then some product else none
  else if value.isZero then some value
  else none

/-- Each product and each quotient is rounded on its own. -/
def scaled? (significand : Nat) (exponent : Int) : Option Magnitude :=
  let value := Magnitude.nearest .double significand 1
  if 0 ≤ exponent then multiplied? value exponent.toNat
  else some (divided value (-exponent).toNat)

/-- The digits of the fraction that do not fit count for nothing, and those of the whole part
only by their number. -/
def double? (numeral : Numeral) : Option Binary.Double :=
  let (front, skipped) := absorb 0 numeral.whole
  let fraction := numeral.fraction.getD []
  let (significand, dropped) := absorb front fraction
  let exponent := (skipped.length : Int) - (fraction.length - dropped.length : Nat) +
    numeral.exponent.getD 0
  (scaled? significand exponent).map fun magnitude => ⟨numeral.negative, magnitude⟩

/-- The integer of a numeral without fraction and exponent. Negative zero is no integer. -/
def integer? (numeral : Numeral) : Option Int :=
  match numeral.fraction, numeral.exponent, absorb 0 numeral.whole with
  | none, none, (value, []) =>
      if !numeral.negative then some value
      else if 0 < value ∧ 2 * value ≤ UInt64.size then some (-value)
      else none
  | _, _, _ => none

/-- A numeral has no value if it is beyond the greatest double. -/
def number? (numeral : Numeral) : Option Number :=
  match numeral.integer? with
  | some value => some (.integer value)
  | none => numeral.double?.map .double

end Numeral

end Playback.Json
