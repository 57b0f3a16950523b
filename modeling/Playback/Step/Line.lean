import Playback.Step
import Playback.Text.Aligned
import Playback.Text.Shortened

namespace Playback

/-- Previews keep this many characters. -/
def previewLimit : Nat := 60

def preview (text : String) : String := Text.shorten previewLimit text

namespace Step

def pathPart (step : Step) : String :=
  match step.path? with
  | none => ""
  | some path => " " ++ path

def descriptionPart (step : Step) : String :=
  if step.description.isEmpty then "" else " " ++ preview step.description

/-- The number, the kind, the path and the beginning of the description. -/
def line (step : Step) : String :=
  Text.alignRight 4 (toString step.number) ++ "  " ++ Text.alignLeft 20 step.kind.name ++
    step.pathPart ++ step.descriptionPart

end Step

end Playback
