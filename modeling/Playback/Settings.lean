import Playback.IndexSet
import Playback.Mode

namespace Playback

/-- The last step is the end of the journal unless it is given. The pauses, the advance and the
delay only advise a driver. -/
structure Settings where
  mode : Mode
  first : UInt64
  last : Option UInt64
  skips : IndexSet
  pausesBefore : IndexSet
  pausesAfter : IndexSet
  autoAdvance : Bool
  delay : UInt64
  stopsAtDivergence : Bool
  verifies : Bool
  limit : UInt64
deriving DecidableEq

namespace Settings

def standard : Settings where
  mode := .readOnly
  first := 0
  last := none
  skips := .empty
  pausesBefore := .empty
  pausesAfter := .empty
  autoAdvance := false
  delay := 0
  stopsAtDivergence := false
  verifies := true
  limit := 200

def ofMode (mode : Mode) : Settings := { standard with mode := mode }

def isSafe (settings : Settings) : Bool := settings.mode.isSafe

def withMode (settings : Settings) (mode : Mode) : Settings := { settings with mode := mode }

def startingAt (settings : Settings) (index : UInt64) : Settings :=
  { settings with first := index }

def endingAt (settings : Settings) (index : UInt64) : Settings :=
  { settings with last := some index }

def skip (settings : Settings) (index : UInt64) : Settings :=
  { settings with skips := settings.skips.insert index }

def pauseBefore (settings : Settings) (index : UInt64) : Settings :=
  { settings with pausesBefore := settings.pausesBefore.insert index }

def pauseAfter (settings : Settings) (index : UInt64) : Settings :=
  { settings with pausesAfter := settings.pausesAfter.insert index }

def withStop (settings : Settings) (stops : Bool) : Settings :=
  { settings with stopsAtDivergence := stops }

/-- A delay between steps goes with advancing on its own. -/
def withAutoAdvance (settings : Settings) (delay : UInt64) : Settings :=
  { settings with autoAdvance := true, delay := delay }

def withLimit (settings : Settings) (limit : UInt64) : Settings := { settings with limit := limit }

def withVerification (settings : Settings) (verifies : Bool) : Settings :=
  { settings with verifies := verifies }

end Settings

end Playback
