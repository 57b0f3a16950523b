namespace Playback.Text

/-- A text that is too long keeps its first characters and ends in three dots. -/
def shorten (limit : Nat) (text : String) : String :=
  if text.length ≤ limit then text
  else String.ofList (text.toList.take (limit - 3)) ++ "..."

end Playback.Text
