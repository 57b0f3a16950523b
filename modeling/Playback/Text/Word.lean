namespace Playback.Text

def digitValue? (letter : Char) : Option Nat :=
  if '0' ≤ letter ∧ letter ≤ '9' then some (letter.toNat - 48) else none

/-- Digits extend a value that is already read. -/
def extend? (value : Nat) : List Char → Option Nat
  | [] => some value
  | letter :: rest =>
      match digitValue? letter with
      | some digit => extend? (10 * value + digit) rest
      | none => none

def digits? : List Char → Option Nat
  | [] => none
  | letters => extend? 0 letters

def unsigned? : List Char → Option Nat
  | '+' :: letters => digits? letters
  | letters => digits? letters

def bounded? (value : Nat) : Option UInt64 :=
  if value < UInt64.size then some (UInt64.ofNat value) else none

/-- A plain word is decimal digits whose value fits in 64 bits. -/
def plainWord? (letters : List Char) : Option UInt64 := (digits? letters).bind bounded?

/-- A word may have a plus sign in front of its digits. -/
def word? (letters : List Char) : Option UInt64 := (unsigned? letters).bind bounded?

end Playback.Text
