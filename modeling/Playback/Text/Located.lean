import Playback.Text.Word

namespace Playback.Text

/-- The letters before the last place of a word and the letters after it. -/
def splitLast? (word : List Char) : List Char → Option (List Char × List Char)
  | [] => none
  | letter :: rest =>
      match splitLast? word rest with
      | some (front, back) => some (letter :: front, back)
      | none =>
          if word.isPrefixOf (letter :: rest) then
            some ([], (letter :: rest).drop word.length)
          else none

/-- A text in front of the line and the column that it names. -/
structure Located where
  text : String
  line : UInt64
  column : UInt64

/-- The line and the column are read by the given reader of numbers. -/
def located? (number? : List Char → Option UInt64) (text : String) : Option Located := do
  let (front, position) ← splitLast? " at line ".toList text.toList
  let (line, column) ← splitLast? " column ".toList position
  return ⟨String.ofList front, ← number? line, ← number? column⟩

def withoutLocation (number? : List Char → Option UInt64) (text : String) : String :=
  match located? number? text with
  | some located => located.text
  | none => text

end Playback.Text
