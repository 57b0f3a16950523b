namespace Playback

structure Edit where
  path : String
  before : String
  after : String
  unified : Option String
  hunks : List String
deriving DecidableEq

namespace Edit

def between (path before after : String) : Edit := ⟨path, before, after, none, []⟩

end Edit

end Playback
