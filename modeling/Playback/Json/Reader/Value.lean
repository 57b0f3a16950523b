import Playback.Json.Reader

namespace Playback.Json.Reader

/-- An object whose first key is this one holds the text of a value and stands for that value. -/
def holderKey : String := "$serde_json::private::RawValue"

/-- The value whose text an object holds, if it holds one. -/
def held? (embedded : String → Except ReadFault Json) (ending : Ending) :
    List (Quoted × Document) → Option (Except ReadFault Json)
  | (.plain key, document) :: rest =>
      if key = holderKey then
        some do
          let text ← textAs "raw value" 0 document
          let value ← embedded text
          flawed (ending.ofHolder rest.isEmpty)
          return value
      else none
  | _ => none

mutual

/-- Any value. The members of its objects are sorted by their keys. -/
def valueOf (embedded : String → Except ReadFault Json) :
    Document → Nat → Except ReadFault Json
  | .null, _ => .ok .null
  | .boolean value, _ => .ok (.boolean value)
  | .number (.exact value), _ => .ok (.number value)
  | .text (.plain value), _ => .ok (.text value)
  | .list _ _, 0 => .error (.flawed .nestedTooDeeply)
  | .list documents ending, room + 1 => do
      let values ← valuesOf embedded documents room
      flawed ending.ofList
      return .list values
  | .object _ _, 0 => .error (.flawed .nestedTooDeeply)
  | .object documents ending, room + 1 =>
      match held? embedded ending documents with
      | some result => result
      | none => do
          let values ← entriesOf embedded documents room
          flawed ending.ofObject
          return .object (sortMembers values)
  | .misnamed _ _, 0 => .error (.flawed .nestedTooDeeply)
  | .misnamed documents _, room + 1 =>
      match held? embedded .closedAfterComma documents with
      | some result => result
      | none => do
          let _ ← entriesOf embedded documents room
          .error (.flawed .keyNotString)
  | other, _ => .error (other.mismatch "any value")

def valuesOf (embedded : String → Except ReadFault Json) :
    List Document → Nat → Except ReadFault (List Json)
  | [], _ => .ok []
  | item :: rest, room => do
      return (← valueOf embedded item room) :: (← valuesOf embedded rest room)

def entriesOf (embedded : String → Except ReadFault Json) :
    List (Quoted × Document) → Nat → Except ReadFault (List (String × Json))
  | [], _ => .ok []
  | (key, value) :: rest, room => do
      let name ← flawed (Document.key key)
      return (name, ← valueOf embedded value room) :: (← entriesOf embedded rest room)

end

/-- The value of a text that stands inside of another one. An inner text is shorter than the one
around it, as its quotes are not its own. -/
def embeddedValue (text : String) : Except ReadFault Json :=
  run
    (fun room document =>
      valueOf
        (fun inner =>
          if _shorter : inner.length < text.length then embeddedValue inner
          else .error (.flawed .nestedTooDeeply))
        document room)
    text
termination_by text.length

def value : Reader Json := fun room document => valueOf embeddedValue document room

end Playback.Json.Reader
