import Playback.Json.Number
import Playback.Text.Hexadecimal

namespace Playback

inductive Json where
  | null
  | boolean (value : Bool)
  | number (value : Json.Number)
  | text (value : String)
  | list (items : List Json)
  | object (members : List (String × Json))

namespace Json

open Text

mutual

def decideEq : (left right : Json) → Decidable (left = right)
  | .null, .null => .isTrue rfl
  | .boolean left, .boolean right => decidable_of_iff (left = right) (by simp)
  | .number left, .number right => decidable_of_iff (left = right) (by simp)
  | .text left, .text right => decidable_of_iff (left = right) (by simp)
  | .list left, .list right =>
      match decideEqItems left right with
      | .isTrue same => .isTrue (congrArg list same)
      | .isFalse differ => .isFalse (fun same => differ (list.inj same))
  | .object left, .object right =>
      match decideEqMembers left right with
      | .isTrue same => .isTrue (congrArg object same)
      | .isFalse differ => .isFalse (fun same => differ (object.inj same))
  | .null, .boolean _ | .null, .number _ | .null, .text _ | .null, .list _ | .null, .object _ =>
      .isFalse nofun
  | .boolean _, .null | .boolean _, .number _ | .boolean _, .text _ | .boolean _, .list _
  | .boolean _, .object _ => .isFalse nofun
  | .number _, .null | .number _, .boolean _ | .number _, .text _ | .number _, .list _
  | .number _, .object _ => .isFalse nofun
  | .text _, .null | .text _, .boolean _ | .text _, .number _ | .text _, .list _
  | .text _, .object _ => .isFalse nofun
  | .list _, .null | .list _, .boolean _ | .list _, .number _ | .list _, .text _
  | .list _, .object _ => .isFalse nofun
  | .object _, .null | .object _, .boolean _ | .object _, .number _ | .object _, .text _
  | .object _, .list _ => .isFalse nofun

def decideEqItems : (left right : List Json) → Decidable (left = right)
  | [], [] => .isTrue rfl
  | [], _ :: _ => .isFalse nofun
  | _ :: _, [] => .isFalse nofun
  | first :: left, other :: right =>
      match decideEq first other, decideEqItems left right with
      | .isTrue same, .isTrue sameRest => .isTrue (by rw [same, sameRest])
      | .isFalse differ, _ => .isFalse (fun same => differ (List.cons.inj same).1)
      | _, .isFalse differ => .isFalse (fun same => differ (List.cons.inj same).2)

def decideEqMembers : (left right : List (String × Json)) → Decidable (left = right)
  | [], [] => .isTrue rfl
  | [], _ :: _ => .isFalse nofun
  | _ :: _, [] => .isFalse nofun
  | (key, first) :: left, (otherKey, other) :: right =>
      if sameKey : key = otherKey then
        match decideEq first other, decideEqMembers left right with
        | .isTrue same, .isTrue sameRest => .isTrue (by rw [sameKey, same, sameRest])
        | .isFalse differ, _ => .isFalse (fun same => differ (by simp_all))
        | _, .isFalse differ => .isFalse (fun same => differ (List.cons.inj same).2)
      else .isFalse (fun same => sameKey (by simp_all))

end

instance : DecidableEq Json := decideEq

def natural (value : Nat) : Json := .number (.integer value)

def word (value : UInt64) : Json := natural value.toNat

/-- An absent value is null. -/
def optional {A : Type} (write : A → Json) : Option A → Json
  | none => .null
  | some value => write value

/-- A member that is left out when there is no value. -/
def given {A : Type} (name : String) (write : A → Json) : Option A → List (String × Json)
  | none => []
  | some value => [(name, write value)]

def listOf {A : Type} (write : A → Json) (items : List A) : Json := .list (items.map write)

/-- A member that is left out when its list is empty. -/
def givenList {A : Type} (name : String) (write : A → Json) (items : List A) :
    List (String × Json) :=
  if items.isEmpty then [] else [(name, listOf write items)]

/-- Controls are the only characters besides the quote and the backslash that are escaped. -/
def escapedLetter (letter : Char) : List Char :=
  if letter = '"' then ['\\', '"']
  else if letter = '\\' then ['\\', '\\']
  else if letter = '\x08' then ['\\', 'b']
  else if letter = '\x0c' then ['\\', 'f']
  else if letter = '\n' then ['\\', 'n']
  else if letter = '\r' then ['\\', 'r']
  else if letter = '\t' then ['\\', 't']
  else if letter.toNat < 0x20 then
    ['\\', 'u', '0', '0', hexDigit (letter.toNat / 16), hexDigit (letter.toNat % 16)]
  else [letter]

def quotedText (text : String) : String :=
  String.ofList ('"' :: text.toList.flatMap escapedLetter ++ ['"'])

def truth (value : Bool) : String := if value then "true" else "false"

def commaSeparated : List String → String
  | [] => ""
  | [last] => last
  | first :: rest => first ++ "," ++ commaSeparated rest

mutual

def compact : Json → String
  | .null => "null"
  | .boolean value => truth value
  | .number value => value.text
  | .text value => quotedText value
  | .list items => "[" ++ commaSeparated (compactItems items) ++ "]"
  | .object members => "\x7b" ++ commaSeparated (compactMembers members) ++ "\x7d"

def compactItems : List Json → List String
  | [] => []
  | item :: rest => compact item :: compactItems rest

def compactMembers : List (String × Json) → List String
  | [] => []
  | (key, value) :: rest => (quotedText key ++ ":" ++ compact value) :: compactMembers rest

end

def indent (depth : Nat) : String := String.ofList (List.replicate (2 * depth) ' ')

/-- The lines of a container stand one step deeper than its brackets. -/
def block (opening closing : String) (depth : Nat) : List String → String
  | [] => opening ++ closing
  | lines =>
      opening ++ "\n" ++
        String.intercalate ",\n" (lines.map fun line => indent (depth + 1) ++ line) ++
        "\n" ++ indent depth ++ closing

mutual

def prettyAt (depth : Nat) : Json → String
  | .null => "null"
  | .boolean value => truth value
  | .number value => value.text
  | .text value => quotedText value
  | .list items => block "[" "]" depth (prettyItems (depth + 1) items)
  | .object members => block "\x7b" "\x7d" depth (prettyMembers (depth + 1) members)

def prettyItems (depth : Nat) : List Json → List String
  | [] => []
  | item :: rest => prettyAt depth item :: prettyItems depth rest

def prettyMembers (depth : Nat) : List (String × Json) → List String
  | [] => []
  | (key, value) :: rest =>
      (quotedText key ++ ": " ++ prettyAt depth value) :: prettyMembers depth rest

end

def pretty (value : Json) : String := prettyAt 0 value

/-- A member takes its place in the order of keys, and the last one of a key stays. -/
def putMember (key : String) (value : Json) : List (String × Json) → List (String × Json)
  | [] => [(key, value)]
  | (other, old) :: rest =>
      if key < other then (key, value) :: (other, old) :: rest
      else if key = other then (key, value) :: rest
      else (other, old) :: putMember key value rest

def sortMembers (members : List (String × Json)) : List (String × Json) :=
  members.foldl (fun sorted member => putMember member.1 member.2 sorted) []

/-- Single numbers widen to doubles, and infinite ones become null. -/
def normalNumber : Number → Json
  | .integer value => .number (.integer value)
  | .double value => if value.magnitude.isFinite then .number (.double value) else .null
  | .single value =>
      if value.magnitude.isFinite then .number (.double (value.convert .double)) else .null

mutual

/-- All members stand in the order of their keys. -/
def normal : Json → Json
  | .null => .null
  | .boolean value => .boolean value
  | .number value => normalNumber value
  | .text value => .text value
  | .list items => .list (normalItems items)
  | .object members => .object (sortMembers (normalMembers members))

def normalItems : List Json → List Json
  | [] => []
  | item :: rest => normal item :: normalItems rest

def normalMembers : List (String × Json) → List (String × Json)
  | [] => []
  | (key, value) :: rest => (key, normal value) :: normalMembers rest

end

end Json

end Playback
