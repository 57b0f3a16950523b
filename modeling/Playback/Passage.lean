import Playback.Outcome

namespace Playback

/-- Why an operation of a player fails. -/
inductive PlayFault where
  | exhausted (length : Nat)
  | outOfRange (index length : Nat)
  | rejected (index : Nat) (reason : String)
  | journal (cause : Fault)
deriving DecidableEq

namespace PlayFault

def message : PlayFault → String
  | .exhausted length =>
      "No more steps to execute (session has " ++ toString length ++ " steps)"
  | .outOfRange index length =>
      "Step index " ++ toString index ++ " out of range [0, " ++ toString length ++ ")"
  | .rejected index reason =>
      "Step " ++ toString index ++ " cannot be replayed: " ++ reason
  | .journal cause => "Session error: " ++ cause.message

/-- The fault of a journal stands for itself, and every other one for an invalid replay. -/
def fault : PlayFault → Fault
  | .journal cause => cause
  | other => .invalid "replay" other.message

end PlayFault

/-- Why a passage over several steps ended. -/
inductive Stop where
  | reached
  | diverged (index : Nat)
  | failed (fault : PlayFault)
deriving DecidableEq

structure Passage where
  outcomes : List Outcome
  stop : Stop
deriving DecidableEq

namespace Passage

def fault? (passage : Passage) : Option PlayFault :=
  match passage.stop with
  | .failed fault => some fault
  | _ => none

/-- A failed passage keeps only its fault. -/
def result (passage : Passage) : Except PlayFault (List Outcome) :=
  match passage.stop with
  | .failed fault => .error fault
  | _ => .ok passage.outcomes

end Passage

end Playback
