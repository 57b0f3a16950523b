import Playback.Digest
import Playback.Edition

namespace Playback

inductive Fault where
  | digestMismatch (subject expected actual : String)
  | badDigest (cause : Digest.HexFault)
  | badEdition (cause : Edition.Fault)
  | unreadableEdition (supported found : String)
  | unreadableText (reason : String)
  | invalid (field reason : String)
  | file (operation reason : String)
deriving DecidableEq

def Fault.message : Fault → String
  | .digestMismatch subject expected actual =>
      "Hash mismatch for " ++ subject ++ ": expected " ++ expected ++ ", got " ++ actual
  | .badDigest cause => "Invalid hash: " ++ cause.message
  | .badEdition cause => "Invalid version: " ++ cause.message
  | .unreadableEdition supported found =>
      "Incompatible version: supports " ++ supported ++ ", found " ++ found
  | .unreadableText reason => "Parse error: " ++ reason
  | .invalid field reason => "Validation failed for " ++ field ++ ": " ++ reason
  | .file operation reason => "I/O error during " ++ operation ++ ": " ++ reason

end Playback
