import Playback.Edit
import Playback.Json.Form

namespace Playback.Edit

open Json

def toJson (edit : Edit) : Json :=
  .object (
    [("path", .text edit.path),
      ("old_content", .text edit.before),
      ("new_content", .text edit.after)] ++
    given "unified_diff" .text edit.unified ++
    givenList "hunks" .text edit.hunks)

def form : Form [String, String, String, Option String, List String] :=
  .field "path" .text (.filled "") <|
  .field "old_content" .text (.filled "") <|
  .field "new_content" .text (.filled "") <|
  .field "unified_diff" (.optional .text) (.filled none) <|
  .field "hunks" (.list .text) (.filled []) <|
  .done

def reader : Reader Edit :=
  (form.reader "struct ReplayDiff").map fun (path, before, after, unified, hunks, ()) =>
    ⟨path, before, after, unified, hunks⟩

end Playback.Edit
