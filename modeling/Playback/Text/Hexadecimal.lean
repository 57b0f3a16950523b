namespace Playback.Text

def hexDigit (value : Nat) : Char :=
  if value < 10 then Char.ofNat (48 + value) else Char.ofNat (87 + value)

def hexValue? (letter : Char) : Option Nat :=
  if '0' ≤ letter ∧ letter ≤ '9' then some (letter.toNat - 48)
  else if 'a' ≤ letter ∧ letter ≤ 'f' then some (letter.toNat - 87)
  else if 'A' ≤ letter ∧ letter ≤ 'F' then some (letter.toNat - 55)
  else none

/-- The fewest digits of a value. -/
def hexDigits (value : Nat) : List Char :=
  if _small : value < 16 then [hexDigit value]
  else hexDigits (value / 16) ++ [hexDigit (value % 16)]
termination_by value
decreasing_by omega

end Playback.Text
