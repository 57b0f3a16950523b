/-
This file reads records from objects, whose members come in any order, or from lists.
-/

import Playback.Json.Reader

namespace Playback.Json

/-- What an omitted field stands for. Some fields may only be omitted in an object. -/
inductive Omission (A : Type) where
  | refused
  | filled (value : A)
  | filledByName (value : A)

/-- The fields of a record in order. -/
inductive Form : List Type → Type 1 where
  | done : Form []
  | field {A : Type} {types : List Type} (name : String) (read : Reader A)
      (omission : Omission A) (rest : Form types) : Form (A :: types)

namespace Form

/-- The fields that are known so far. -/
abbrev Slots : List Type → Type
  | [] => Unit
  | A :: types => Option A × Slots types

abbrev Values : List Type → Type
  | [] => Unit
  | A :: types => A × Values types

def size {types : List Type} : Form types → Nat
  | .done => 0
  | .field _ _ _ rest => rest.size + 1

def blank : {types : List Type} → Form types → Slots types
  | _, .done => ()
  | _, .field _ _ _ rest => (none, rest.blank)

/-- A member with the name of a field fills its slot, once. Other members fill none. -/
def fill? (room : Nat) (key : String) (document : Document) :
    {types : List Type} → Form types → Slots types → Option (Except ReadFault (Slots types))
  | _, .done, _ => none
  | _, .field name read _ rest, (slot, slots) =>
      if key = name then
        some <|
          match slot with
          | some _ => .error (.repeatedField name)
          | none => (read room document).map fun value => (some value, slots)
      else (rest.fill? room key document slots).map fun filled =>
        filled.map fun slots => (slot, slots)

/-- A member fills a slot or is skipped. -/
def take {types : List Type} (form : Form types) (room : Nat) (slots : Slots types)
    (member : Quoted × Document) : Except ReadFault (Slots types) :=
  match Document.key member.1 with
  | .error flaw => .error (.flawed flaw)
  | .ok name =>
      match form.fill? room name member.2 slots with
      | some filled => filled
      | none => (Reader.flawed member.2.skip).map fun _ => slots

def takeAll {types : List Type} (form : Form types) (room : Nat) :
    List (Quoted × Document) → Slots types → Except ReadFault (Slots types)
  | [], slots => .ok slots
  | member :: rest, slots =>
      match form.take room slots member with
      | .error fault => .error fault
      | .ok slots => form.takeAll room rest slots

/-- Omitted fields get their values, and the first one that must be there is named. -/
def complete : {types : List Type} → Form types → Slots types → Except ReadFault (Values types)
  | _, .done, _ => .ok ()
  | _, .field name _ omission rest, (slot, slots) =>
      match slot, omission with
      | some value, _ => (rest.complete slots).map fun values => (value, values)
      | none, .filled value => (rest.complete slots).map fun values => (value, values)
      | none, .filledByName value => (rest.complete slots).map fun values => (value, values)
      | none, .refused => .error (.missingField name)

/-- The items of a list are the fields in order, and the last fields may be omitted. -/
def readItems (title : String) (room total : Nat) :
    {types : List Type} → Form types → List Document → Ending → Except ReadFault (Values types)
  | _, .done, [], ending => (Reader.flawed ending.ofRecord).map fun _ => ()
  | _, .done, _ :: _, _ => .error (.flawed .trailingText)
  | _, .field _ read _ rest, item :: items, ending =>
      match read room item with
      | .error fault => .error fault
      | .ok value =>
          (readItems title room total rest items ending).map fun values => (value, values)
  | _, .field _ _ omission rest, [], ending =>
      match ending.ofList, omission with
      | .error flaw, _ => .error (.flawed flaw)
      | .ok _, .filled value =>
          (readItems title room total rest [] ending).map fun values => (value, values)
      | .ok _, _ =>
          .error (.tooShort (total - rest.size - 1)
            (title ++ " with " ++ toString total ++
              (if total = 1 then " element" else " elements")))

/-- The reader of a record. The title stands in messages. -/
def reader {types : List Type} (form : Form types) (title : String) : Reader (Values types) :=
  fun room document =>
    match document with
    | .object members ending =>
        Reader.enter room fun room => do
          let slots ← form.takeAll room members form.blank
          Reader.flawed ending.ofObject
          form.complete slots
    | .misnamed members _ =>
        Reader.enter room fun room => do
          let _ ← form.takeAll room members form.blank
          .error (.flawed .keyNotString)
    | .list items ending =>
        Reader.enter room fun room => readItems title room form.size form items ending
    | other => .error (other.mismatch title)

end Form

end Playback.Json
