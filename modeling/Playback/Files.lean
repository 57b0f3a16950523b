namespace Playback

inductive FileFault where
  | notFound
  | directory
  | notDirectory
  | nameTooLong
  | notText
  | other (reason : String)
deriving DecidableEq

def FileFault.message : FileFault → String
  | .notFound => "No such file or directory (os error 2)"
  | .directory => "Is a directory (os error 21)"
  | .notDirectory => "Not a directory (os error 20)"
  | .nameTooLong => "File name too long (os error 36)"
  | .notText => "stream did not contain valid UTF-8"
  | .other reason => reason

/-- What reading each path gives. -/
abbrev Files := String → Except FileFault ByteArray

namespace Files

/-- The bytes of a text file must be UTF-8. -/
def readText (files : Files) (path : String) : Except FileFault String :=
  match files path with
  | .error fault => .error fault
  | .ok bytes =>
      match String.fromUTF8? bytes with
      | some text => .ok text
      | none => .error .notText

/-- The names that a path goes through. -/
def segments (path : String) : List String :=
  (path.splitOn "/").filter fun name => name != "" && name != "."

/-- A path with a slash at its end asks for a directory. -/
def asksForDirectory (path : String) : Bool := path.endsWith "/" || path.endsWith "/."

/-- The greatest number of bytes in a name. -/
def greatestName : Nat := 255

/-- The greatest number of bytes in a path. -/
def greatestPath : Nat := 4095

/-- A place is given by the names that lead to it from the root. -/
abbrev Place := List String

inductive Node where
  | directory
  | file (bytes : ByteArray)

/-- There is a directory at every place above a file. -/
structure Tree where
  directories : List Place
  files : List (Place × ByteArray)

namespace Tree

def node? (tree : Tree) (place : Place) : Option Node :=
  match tree.files.lookup place with
  | some bytes => some (.file bytes)
  | none =>
      if tree.directories.contains place || tree.files.any (place.isPrefixOf ·.1) then
        some .directory
      else none

/-- The place that is reached by going through the names. Nothing lies above the root. -/
def follow (tree : Tree) (place : Place) : List String → Except FileFault Place
  | [] => .ok place
  | name :: rest =>
      match tree.node? place with
      | none => .error .notFound
      | some (.file _) => .error .notDirectory
      | some .directory =>
          if name = ".." then follow tree place.dropLast rest
          else if greatestName < name.utf8ByteSize then .error .nameTooLong
          else follow tree (place ++ [name]) rest

/-- A path with a slash at its front goes from the root. -/
def read (tree : Tree) (start : Place) : Files := fun path =>
  if path.isEmpty then .error .notFound
  else if greatestPath < path.utf8ByteSize then .error .nameTooLong
  else
    match tree.follow (if path.startsWith "/" then [] else start) (segments path) with
    | .error fault => .error fault
    | .ok place =>
        match tree.node? place with
        | none => .error .notFound
        | some .directory => .error .directory
        | some (.file bytes) =>
            if asksForDirectory path then .error .notDirectory else .ok bytes

end Tree

abbrev Entries := List (String × ByteArray)

/-- The start has an empty name, so that no path leads to it from elsewhere. -/
def start : Place := ["tmp", ""]

/-- The directories of every system, and its empty file. -/
def system : Tree where
  directories := [["bin"], ["dev"], ["etc"], ["home"], ["tmp"], ["usr"], ["var"]]
  files := [(["dev", "null"], .empty)]

/-- The files below the start, in a system that shows no others. -/
def ofEntries (entries : Entries) : Files :=
  let files := entries.map fun entry => (start ++ segments entry.1, entry.2)
  Tree.read ⟨start :: system.directories, system.files ++ files⟩ start

end Files

end Playback
