namespace Playback

/-- Reading only shows the record, simulation compares it with what is known about the files, and
application collects the paths that another tool may write. -/
inductive Mode where
  | readOnly
  | simulate
  | apply
deriving DecidableEq

namespace Mode

def name : Mode → String
  | .readOnly => "read_only"
  | .simulate => "simulate"
  | .apply => "apply"

def choices : List (String × Mode) :=
  [("read_only", .readOnly), ("simulate", .simulate), ("apply", .apply)]

def isSafe : Mode → Bool
  | .readOnly | .simulate => true
  | .apply => false

/-- The name is kept in lower case. -/
structure Unknown where
  name : String
deriving DecidableEq

def Unknown.message (unknown : Unknown) : String := "unknown replay mode: " ++ unknown.name

/-- Names are read in letters of both cases, and the first mode has three of them. -/
def ofText (text : String) : Except Unknown Mode :=
  let lower := text.map Char.toLower
  if lower = "read_only" ∨ lower = "read-only" ∨ lower = "readonly" then .ok .readOnly
  else if lower = "simulate" then .ok .simulate
  else if lower = "apply" then .ok .apply
  else .error ⟨lower⟩

end Mode

end Playback
