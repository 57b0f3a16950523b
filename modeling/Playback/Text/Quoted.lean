import Playback.Text.Hexadecimal
import Playback.Text.Visible

namespace Playback.Text

/-- Quotes, backslashes and the common controls have short escapes. A character that does not
show is written by its code point. -/
def quotedLetter (letter : Char) : List Char :=
  if letter = '"' then ['\\', '"']
  else if letter = '\\' then ['\\', '\\']
  else if letter = '\n' then ['\\', 'n']
  else if letter = '\r' then ['\\', 'r']
  else if letter = '\t' then ['\\', 't']
  else if letter.toNat = 0 then ['\\', '0']
  else if visible letter then [letter]
  else ['\\', 'u', '\x7b'] ++ hexDigits letter.toNat ++ ['\x7d']

def quoted (text : String) : String :=
  String.ofList ('"' :: text.toList.flatMap quotedLetter ++ ['"'])

end Playback.Text
