/-
This file runs the commands on the files of the system. Every replay is stamped with the first
instant of 1970, and no time passes in it.
-/

import Playback.Command

namespace Playback

/-- Faults of one kind are told apart by their numbers. -/
def fileFault : IO.Error → FileFault
  | .noFileOrDirectory .. => .notFound
  | .inappropriateType _ code _ => if code = 21 then .directory else .notDirectory
  | .invalidArgument _ code reason => if code = 36 then .nameTooLong else .other reason
  | error => .other (toString error)

def readPath (path : String) : IO (Except FileFault ByteArray) := do
  try return .ok (← IO.FS.readBinFile path)
  catch error => return .error (fileFault error)

/-- The files of a command are read before it runs. -/
def gather (paths : List String) : IO Files := do
  let contents ← paths.mapM fun path => return (path, ← readPath path)
  return fun path => (contents.lookup path).getD (.error .notFound)

end Playback

def main (arguments : List String) : IO UInt32 := do
  let command := Playback.Arguments.read? arguments
  let files ← Playback.gather ((command.map Playback.Command.paths).getD [])
  let answer := Playback.Command.answer .epoch files arguments
  IO.print answer.output
  answer.faults.forM IO.eprintln
  return UInt32.ofNat answer.code
