import Playback.Json.Document

namespace Playback.Json

namespace Ending

/-- A list that is read must be closed, and no comma may stand before its bracket. -/
def ofList : Ending → Except Flaw Unit
  | .closed => .ok ()
  | .closedAfterComma => .error .trailingComma
  | .cut => .error .endInList
  | .cutAfterComma => .error .endInValue
  | .unseparated => .error .expectedListSeparator

def ofObject : Ending → Except Flaw Unit
  | .closed => .ok ()
  | .closedAfterComma => .error .trailingComma
  | .cut => .error .endInObject
  | .cutAfterComma => .error .endInValue
  | .unseparated => .error .expectedObjectSeparator

/-- A record that is written as a list must end after its last field. -/
def ofRecord : Ending → Except Flaw Unit
  | .closed => .ok ()
  | .closedAfterComma => .error .trailingComma
  | .cut => .error .endInList
  | .cutAfterComma | .unseparated => .error .trailingText

/-- A list that is skipped ends like one that is read, but for the words about commas. -/
def ofSkippedList : Ending → Except Flaw Unit
  | .closed => .ok ()
  | .closedAfterComma => .error .expectedValue
  | .cut => .error .endInList
  | .cutAfterComma => .error .endInValue
  | .unseparated => .error .expectedListSeparator

/-- A comma before the end asks for a key. -/
def ofSkippedObject : Ending → Except Flaw Unit
  | .closed => .ok ()
  | .closedAfterComma => .error .keyNotString
  | .cut | .cutAfterComma => .error .endInObject
  | .unseparated => .error .expectedObjectSeparator

/-- Nothing may follow the member of an object that holds a text. -/
def ofHolder (alone : Bool) (ending : Ending) : Except Flaw Unit :=
  match alone, ending with
  | true, .closed => .ok ()
  | true, .cut => .error .endInObject
  | true, .unseparated => .error .trailingText
  | _, _ => .error .trailingComma

end Ending

namespace Document

/-- The key of a member that is read. -/
def key : Quoted → Except Flaw String
  | .plain name => .ok name
  | .unpaired reading => .error reading
  | .broken reading _ => .error reading

def skipKey : Quoted → Except Flaw Unit
  | .plain _ | .unpaired _ => .ok ()
  | .broken _ skipping => .error skipping

mutual

/-- A skipped value must be JSON, but it may nest to any depth and hold any number. -/
def skip : Document → Except Flaw Unit
  | .null | .boolean _ => .ok ()
  | .number (.broken _) => .error .badNumber
  | .number _ => .ok ()
  | .text quoted => skipKey quoted
  | .list items ending =>
      match skipItems items with
      | .error flaw => .error flaw
      | .ok _ => ending.ofSkippedList
  | .object members ending =>
      match skipMembers members with
      | .error flaw => .error flaw
      | .ok _ => ending.ofSkippedObject
  | .misnamed members _ =>
      match skipMembers members with
      | .error flaw => .error flaw
      | .ok _ => .error .keyNotString
  | .stray flaw => .error flaw
  | .severed flaw => .error flaw
  | .absent => .error .endInValue

def skipItems : List Document → Except Flaw Unit
  | [] => .ok ()
  | item :: rest =>
      match skip item with
      | .error flaw => .error flaw
      | .ok _ => skipItems rest

def skipMembers : List (Quoted × Document) → Except Flaw Unit
  | [] => .ok ()
  | (key, value) :: rest =>
      match skipKey key with
      | .error flaw => .error flaw
      | .ok _ =>
          match skip value with
          | .error flaw => .error flaw
          | .ok _ => skipMembers rest

end

end Document

end Playback.Json
