import Playback.Text.Word

namespace Playback

structure Edition where
  major : UInt64
  minor : UInt64
  patch : UInt64
deriving DecidableEq

namespace Edition

/-- The edition that this library writes and reads. -/
def current : Edition := ⟨1, 0, 0⟩

def reads (reader found : Edition) : Bool := reader.major == found.major

def parts (edition : Edition) : List Nat :=
  [edition.major.toNat, edition.minor.toNat, edition.patch.toNat]

/-- Editions are ordered by their parts from left to right. -/
def less (left right : Edition) : Bool := decide (left.parts < right.parts)

def text (edition : Edition) : String :=
  toString edition.major.toNat ++ "." ++ toString edition.minor.toNat ++ "." ++
    toString edition.patch.toNat

inductive Fault where
  | format (text : String)
  | component (text : String)
deriving DecidableEq

def Fault.message : Fault → String
  | .format text => "Invalid version format: " ++ text
  | .component text => "Invalid version component: " ++ text

/-- The text is cut at every occurrence of the separator, which is dropped. -/
def cut (separator : Char) : List Char → List (List Char)
  | [] => [[]]
  | letter :: rest =>
      if letter = separator then [] :: cut separator rest
      else
        match cut separator rest with
        | [] => [[letter]]
        | first :: others => (letter :: first) :: others

def part (letters : List Char) : Except Fault UInt64 :=
  match Text.word? letters with
  | some value => .ok value
  | none => .error (.component (String.ofList letters))

/-- There must be three parts, and the leftmost bad one is named. -/
def ofText (text : String) : Except Fault Edition :=
  match cut '.' text.toList with
  | [major, minor, patch] => do
      return ⟨← part major, ← part minor, ← part patch⟩
  | _ => .error (.format text)

end Edition

end Playback
