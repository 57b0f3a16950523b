import Playback.Json.Numeral
import Playback.Json.Quoted

namespace Playback.Json

inductive Token where
  | openList
  | closeList
  | openObject
  | closeObject
  | comma
  | colon
  | null
  | boolean (value : Bool)
  | number (written : Written)
  | text (quoted : Quoted)
  | stray (flaw : Flaw)
deriving DecidableEq

namespace Token

def isBlank (letter : Char) : Bool :=
  letter == ' ' || letter == '\n' || letter == '\t' || letter == '\r'

/-- The letters after a word. -/
def word : List Char → List Char → Except Flaw (List Char)
  | [], letters => .ok letters
  | _ :: _, [] => .error .endInValue
  | expected :: rest, letter :: letters =>
      if expected = letter then word rest letters else .error .expectedWord

theorem word_length {expected letters rest : List Char}
    (found : word expected letters = .ok rest) : rest.length ≤ letters.length := by
  fun_induction word expected letters with
  | case1 => cases found; exact Nat.le_refl _
  | case2 => cases found
  | case3 _ _ _ ih => have := ih found; simp only [List.length_cons]; omega
  | case4 => cases found

def mark? : Char → Option Token
  | '[' => some .openList
  | ']' => some .closeList
  | '\x7b' => some .openObject
  | '\x7d' => some .closeObject
  | ',' => some .comma
  | ':' => some .colon
  | _ => none

/-- The rest of a word and the token that it stands for. -/
def word? : Char → Option (List Char × Token)
  | 'n' => some (['u', 'l', 'l'], .null)
  | 't' => some (['r', 'u', 'e'], .boolean true)
  | 'f' => some (['a', 'l', 's', 'e'], .boolean false)
  | _ => none

/-- One token that starts with the given letter, and the letters after it. -/
def next (letter : Char) (letters : List Char) : Token × List Char :=
  match mark? letter with
  | some token => (token, letters)
  | none =>
      match word? letter with
      | some (expected, token) =>
          match word expected letters with
          | .ok rest => (token, rest)
          | .error flaw => (.stray flaw, [])
      | none =>
          if letter = '"' then
            let (quoted, rest) := Quoted.scan letters
            (.text quoted, rest)
          else if letter = '-' || Numeral.isDigit letter then
            let (written, rest) := Numeral.scan (letter :: letters)
            (.number written, rest)
          else (.stray .expectedValue, [])

theorem next_length (letter : Char) (letters : List Char) :
    (next letter letters).2.length ≤ letters.length := by
  unfold next
  split
  · exact Nat.le_refl _
  · split
    · split
      · rename_i found
        exact word_length found
      · exact Nat.zero_le _
    · split
      · exact Quoted.scan_length letters
      · split
        · have := Numeral.scan_length (List.cons_ne_nil letter letters)
          simp only [List.length_cons] at this
          exact Nat.le_of_lt_succ this
        · exact Nat.zero_le _

/-- Blanks are dropped, and so is all that comes after a stray token. -/
def scan : List Char → List Token
  | [] => []
  | letter :: letters =>
      if isBlank letter then scan letters
      else
        let rest := (next letter letters).2
        (next letter letters).1 :: scan rest
termination_by letters => letters.length
decreasing_by
  · simp
  · have := next_length letter letters
    simp only [List.length_cons]
    omega

end Token

end Playback.Json
