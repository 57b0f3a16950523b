import Playback.Json.Flaw
import Playback.Text.Hexadecimal

namespace Playback.Json

open Text

/-- A string as it stands in a text. -/
inductive Quoted where
  | plain (text : String)
  | unpaired (reading : Flaw)
  | broken (reading skipping : Flaw)
deriving DecidableEq

namespace Quoted

def escaped? : Char → Option Char
  | '"' => some '"'
  | '\\' => some '\\'
  | '/' => some '/'
  | 'b' => some '\x08'
  | 'f' => some '\x0c'
  | 'n' => some '\n'
  | 'r' => some '\r'
  | 't' => some '\t'
  | _ => none

/-- Four bytes must follow, and they must be hexadecimal digits. -/
def codeUnit (letters : List Char) : Except Flaw Nat :=
  let four := letters.take 4
  if (String.ofList four).utf8ByteSize < 4 then .error .endInString
  else
    match four.map hexValue? with
    | [some a, some b, some c, some d] => .ok (((a * 16 + b) * 16 + c) * 16 + d)
    | _ => .error .badEscape

def isHighSurrogate (unit : Nat) : Bool := 0xD800 ≤ unit && unit ≤ 0xDBFF

def isLowSurrogate (unit : Nat) : Bool := 0xDC00 ≤ unit && unit ≤ 0xDFFF

def joinSurrogates (high low : Nat) : Char :=
  Char.ofNat (0x10000 + (high - 0xD800) * 0x400 + (low - 0xDC00))

/-- The second half of a surrogate pair follows with an escape of its own. -/
def lowSurrogate : List Char → Except Flaw Nat
  | [] => .error .endInString
  | '\\' :: letters =>
      match letters with
      | [] => .error .endInString
      | 'u' :: letters =>
          match codeUnit letters with
          | .error flaw => .error flaw
          | .ok unit => if isLowSurrogate unit then .ok unit else .error .loneSurrogate
      | _ :: _ => .error .unfinishedPair
  | _ :: _ => .error .unfinishedPair

/-- The character of a code point escape and the number of letters that it takes. -/
def codePoint (letters : List Char) : Except Flaw (Char × Nat) :=
  match codeUnit letters with
  | .error flaw => .error flaw
  | .ok unit =>
      if isLowSurrogate unit then .error .loneSurrogate
      else if isHighSurrogate unit then
        match lowSurrogate (letters.drop 4) with
        | .error flaw => .error flaw
        | .ok low => .ok (joinSurrogates unit low, 10)
      else .ok (Char.ofNat unit, 4)

/-- The letters up to the closing quote. -/
def read (letters : List Char) : Except Flaw (List Char) :=
  match letters with
  | [] => .error .endInString
  | '"' :: _ => .ok []
  | '\\' :: rest =>
      match rest with
      | [] => .error .endInString
      | 'u' :: rest =>
          match codePoint rest with
          | .error flaw => .error flaw
          | .ok (letter, length) => (read (rest.drop length)).map (letter :: ·)
      | escape :: rest =>
          match escaped? escape with
          | none => .error .badEscape
          | some letter => (read rest).map (letter :: ·)
  | letter :: rest =>
      if letter.toNat < 0x20 then .error .controlCharacter
      else (read rest).map (letter :: ·)
termination_by letters.length
decreasing_by all_goals simp_all only [List.length_cons, List.length_drop]; omega

/-- The letters after the closing quote. -/
def skip (letters : List Char) : Except Flaw (List Char) :=
  match letters with
  | [] => .error .endInString
  | '"' :: rest => .ok rest
  | '\\' :: rest =>
      match rest with
      | [] => .error .endInString
      | 'u' :: rest =>
          match codeUnit rest with
          | .error flaw => .error flaw
          | .ok _ => skip (rest.drop 4)
      | escape :: rest =>
          match escaped? escape with
          | none => .error .badEscape
          | some _ => skip rest
  | letter :: rest =>
      if letter.toNat < 0x20 then .error .controlCharacter
      else skip rest
termination_by letters.length
decreasing_by all_goals simp_all only [List.length_cons, List.length_drop]; omega

theorem skip_length {letters rest : List Char} (skipped : skip letters = .ok rest) :
    rest.length < letters.length := by
  fun_induction skip letters with
  | case1 => cases skipped
  | case2 => cases skipped; simp
  | case3 => cases skipped
  | case4 => cases skipped
  | case5 _ _ _ ih => have := ih skipped; simp only [List.length_drop, List.length_cons] at *; omega
  | case6 => cases skipped
  | case7 _ _ _ _ _ ih => have := ih skipped; simp only [List.length_cons] at *; omega
  | case8 => cases skipped
  | case9 _ _ _ _ _ ih => have := ih skipped; simp only [List.length_cons] at *; omega

/-- A string and the letters after it. Nothing is left after a broken one. -/
def scan (letters : List Char) : Quoted × List Char :=
  match skip letters, read letters with
  | .ok rest, .ok text => (.plain (String.ofList text), rest)
  | .ok rest, .error reading => (.unpaired reading, rest)
  | .error skipping, .ok _ => (.broken skipping skipping, [])
  | .error skipping, .error reading => (.broken reading skipping, [])

theorem scan_length (letters : List Char) : (scan letters).2.length ≤ letters.length := by
  unfold scan
  cases skipped : skip letters with
  | error => cases read letters <;> simp
  | ok rest => have := skip_length skipped; cases read letters <;> simp <;> omega

end Quoted

end Playback.Json
