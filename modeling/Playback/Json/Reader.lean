import Playback.Json.Ending
import Playback.Json.ReadFault

namespace Playback.Json

/-- A reader is told how many containers may still be opened. -/
abbrev Reader (A : Type) := Nat → Document → Except ReadFault A

namespace Reader

def flawed {A : Type} : Except Flaw A → Except ReadFault A
  | .ok value => .ok value
  | .error flaw => .error (.flawed flaw)

def map {A B : Type} (change : A → B) (read : Reader A) : Reader B :=
  fun room document => (read room document).map change

/-- The value must pass one more test, which gives its own reason. -/
def refine {A B : Type} (test : A → Except String B) (read : Reader A) : Reader B :=
  fun room document =>
    match read room document with
    | .error fault => .error fault
    | .ok value =>
        match test value with
        | .ok result => .ok result
        | .error reason => .error (.refused reason)

/-- A container takes one of the places that are left. -/
def enter {A : Type} (room : Nat) (read : Nat → Except ReadFault A) : Except ReadFault A :=
  match room with
  | 0 => .error (.flawed .nestedTooDeeply)
  | room + 1 => read room

/-- A string, which messages call by the given name. -/
def textAs (expected : String) : Reader String := fun _ document =>
  match document with
  | .text (.plain value) => .ok value
  | other => .error (other.mismatch expected)

def text : Reader String := textAs "a string"

def boolean : Reader Bool := fun _ document =>
  match document with
  | .boolean value => .ok value
  | other => .error (other.mismatch "a boolean")

/-- A natural number below a bound. -/
def natural (bound : Nat) (expected : String) : Reader Nat := fun _ document =>
  match document with
  | .number (.exact (.integer value)) =>
      if 0 ≤ value ∧ value < bound then .ok value.toNat
      else .error (.outOfRange value expected)
  | other => .error (other.mismatch expected)

def word64 (expected : String) : Reader UInt64 :=
  (natural UInt64.size expected).map UInt64.ofNat

def word32 : Reader UInt32 := (natural UInt32.size "u32").map UInt32.ofNat

/-- A number is rounded to a single, which may become infinite. -/
def single : Reader Binary.Single := fun _ document =>
  match document with
  | .number (.exact (.integer value)) => .ok (Binary.ofInt .single value)
  | .number (.exact (.double value)) => .ok (value.convert .single)
  | .number (.exact (.single value)) => .ok value
  | other => .error (other.mismatch "f32")

def optional {A : Type} (read : Reader A) : Reader (Option A) := fun room document =>
  match document with
  | .null => .ok none
  | other => (read room other).map some

def items {A : Type} (read : Reader A) (room : Nat) : List Document → Except ReadFault (List A)
  | [] => .ok []
  | item :: rest => do return (← read room item) :: (← items read room rest)

def list {A : Type} (read : Reader A) : Reader (List A) := fun room document =>
  match document with
  | .list documents ending =>
      enter room fun room => do
        let values ← items read room documents
        flawed ending.ofList
        return values
  | other => .error (other.mismatch "a sequence")

def members {A : Type} (read : Reader A) (room : Nat) :
    List (Quoted × Document) → Except ReadFault (List (String × A))
  | [] => .ok []
  | (key, value) :: rest => do
      let name ← flawed (Document.key key)
      return (name, ← read room value) :: (← members read room rest)

/-- The members of an object in the order in which they stand. -/
def entries {A : Type} (read : Reader A) : Reader (List (String × A)) := fun room document =>
  match document with
  | .object documents ending =>
      enter room fun room => do
        let values ← members read room documents
        flawed ending.ofObject
        return values
  | .misnamed documents _ =>
      enter room fun room => do
        let _ ← members read room documents
        .error (.flawed .keyNotString)
  | other => .error (other.mismatch "a map")

/-- The value of a name in a list of names. -/
def named {A : Type} (choices : List (String × A)) (name : String) : Except ReadFault A :=
  match choices.lookup name with
  | some value => .ok value
  | none => .error (.unknownVariant name (choices.map Prod.fst))

/-- The only member of an object names a choice, and its value is null. -/
def choiceMember {A : Type} (choices : List (String × A)) :
    List (Quoted × Document) → Option Ending → Except ReadFault A
  | [], _ => .error (.flawed .expectedValue)
  | (key, value) :: rest, ending => do
      let name ← flawed (Document.key key)
      let choice ← named choices name
      match value with
      | .null =>
          match rest, ending with
          | [], some .closed => return choice
          | [], some .cut => .error (.flawed .endInObject)
          | _, _ => .error (.flawed .expectedValue)
      | other => .error (other.mismatch "unit")

/-- One of several names, given as a string or as an object with one null member. -/
def choice {A : Type} (choices : List (String × A)) : Reader A := fun room document =>
  match document with
  | .text (.plain name) => named choices name
  | .text (.unpaired reading) => .error (.flawed reading)
  | .text (.broken reading _) => .error (.flawed reading)
  | .object [] .cut => enter room fun _ => .error (.flawed .endInObject)
  | .object documents ending => enter room fun _ => choiceMember choices documents (some ending)
  | .misnamed [] _ => enter room fun _ => .error (.flawed .keyNotString)
  | .misnamed documents _ => enter room fun _ => choiceMember choices documents none
  | .severed flaw => .error (.flawed flaw)
  | .absent => .error (.flawed .endInValue)
  | _ => .error (.flawed .expectedValue)

/-- The greatest number of containers that may be open at once. -/
def greatestDepth : Nat := 127

/-- The whole text must be one value. -/
def run {A : Type} (read : Reader A) (text : String) : Except ReadFault A :=
  let (document, more) := Document.ofText text
  match read greatestDepth document with
  | .error fault => .error fault
  | .ok value => if more then .error (.flawed .trailingText) else .ok value

end Reader

end Playback.Json
