import Playback.Json.Token

namespace Playback.Json

/-- How the items of a list or the members of an object come to an end. -/
inductive Ending where
  | closed
  | closedAfterComma
  | cut
  | cutAfterComma
  | unseparated
deriving DecidableEq

/-- The tree of a JSON text together with the place where the text stops being JSON. An object is
misnamed when something else stands in the place of a key, and a member is severed when its colon is
missing. -/
inductive Document where
  | null
  | boolean (value : Bool)
  | number (written : Written)
  | text (quoted : Quoted)
  | list (items : List Document) (ending : Ending)
  | object (members : List (Quoted × Document)) (ending : Ending)
  | misnamed (members : List (Quoted × Document)) (found : Document)
  | stray (flaw : Flaw)
  | severed (flaw : Flaw)
  | absent

namespace Document

/-- A result together with the tokens after it. -/
structure Parsed (result : Type) (bound : Nat) where
  result : result
  rest : List Token
  within : rest.length ≤ bound

abbrev Items := List Document × Ending

/-- The members of an object, and its ending or what stands in the place of a key. -/
abbrev Members := List (Quoted × Document) × (Ending ⊕ Document)

def ofItems (items : Items) : Document := .list items.1 items.2

def ofMembers (members : Members) : Document :=
  match members.2 with
  | .inl ending => .object members.1 ending
  | .inr found => .misnamed members.1 found

mutual

/-- The value that a token starts. -/
def parseValue (token : Token) (rest : List Token) : Parsed Document rest.length :=
  match token with
  | .openList =>
      match parseList rest with
      | ⟨items, after, within⟩ => ⟨ofItems items, after, within⟩
  | .openObject =>
      match parseObject rest with
      | ⟨members, after, within⟩ => ⟨ofMembers members, after, within⟩
  | .null => ⟨.null, rest, Nat.le_refl _⟩
  | .boolean value => ⟨.boolean value, rest, Nat.le_refl _⟩
  | .number written => ⟨.number written, rest, Nat.le_refl _⟩
  | .text quoted => ⟨.text quoted, rest, Nat.le_refl _⟩
  | .stray flaw => ⟨.stray flaw, rest, Nat.le_refl _⟩
  | .closeList | .closeObject | .comma | .colon =>
      ⟨.stray .expectedValue, rest, Nat.le_refl _⟩
termination_by 4 * rest.length + 1

/-- The items after an opening bracket. -/
def parseList (tokens : List Token) : Parsed Items tokens.length :=
  match tokens with
  | [] => ⟨([], .cut), [], Nat.le_refl _⟩
  | .closeList :: rest => ⟨([], .closed), rest, Nat.le_succ _⟩
  | token :: rest =>
      match parseItem token rest with
      | ⟨items, after, within⟩ => ⟨items, after, Nat.le_succ_of_le within⟩
termination_by 4 * tokens.length

/-- An item and those after it. -/
def parseItem (token : Token) (rest : List Token) : Parsed Items rest.length :=
  match parseValue token rest with
  | ⟨first, middle, start⟩ =>
      match parseItems middle with
      | ⟨(others, ending), after, within⟩ =>
          ⟨(first :: others, ending), after, Nat.le_trans within start⟩
termination_by 4 * rest.length + 2

/-- The items after an item. -/
def parseItems (tokens : List Token) : Parsed Items tokens.length :=
  match tokens with
  | [] => ⟨([], .cut), [], Nat.le_refl _⟩
  | .closeList :: rest => ⟨([], .closed), rest, Nat.le_succ _⟩
  | .comma :: rest =>
      match rest with
      | [] => ⟨([], .cutAfterComma), [], Nat.zero_le _⟩
      | .closeList :: rest => ⟨([], .closedAfterComma), rest, by simp only [List.length_cons]; omega⟩
      | token :: rest =>
          match parseItem token rest with
          | ⟨items, after, within⟩ =>
              ⟨items, after, by simp only [List.length_cons]; omega⟩
  | _ :: rest => ⟨([], .unseparated), rest, Nat.le_succ _⟩
termination_by 4 * tokens.length

/-- The members after an opening brace. -/
def parseObject (tokens : List Token) : Parsed Members tokens.length :=
  match tokens with
  | [] => ⟨([], .inl .cut), [], Nat.le_refl _⟩
  | .closeObject :: rest => ⟨([], .inl .closed), rest, Nat.le_succ _⟩
  | token :: rest =>
      match parseMember token rest with
      | ⟨members, after, within⟩ => ⟨members, after, Nat.le_succ_of_le within⟩
termination_by 4 * tokens.length

/-- A member and those after it. -/
def parseMember (token : Token) (rest : List Token) : Parsed Members rest.length :=
  match token with
  | .text key =>
      match parseMarked rest with
      | ⟨first, middle, start⟩ =>
          match parseMembers middle with
          | ⟨(others, ending), after, within⟩ =>
              ⟨((key, first) :: others, ending), after, Nat.le_trans within start⟩
  | token =>
      match parseValue token rest with
      | ⟨found, after, within⟩ => ⟨([], .inr found), after, within⟩
termination_by 4 * rest.length + 3

/-- The value after a colon. -/
def parseMarked (tokens : List Token) : Parsed Document tokens.length :=
  match tokens with
  | [] => ⟨.severed .endInObject, [], Nat.le_refl _⟩
  | .colon :: rest =>
      match rest with
      | [] => ⟨.absent, [], Nat.zero_le _⟩
      | token :: rest =>
          match parseValue token rest with
          | ⟨found, after, within⟩ => ⟨found, after, by simp only [List.length_cons]; omega⟩
  | _ :: rest => ⟨.severed .expectedColon, rest, Nat.le_succ _⟩
termination_by 4 * tokens.length + 2

/-- The members after a member. -/
def parseMembers (tokens : List Token) : Parsed Members tokens.length :=
  match tokens with
  | [] => ⟨([], .inl .cut), [], Nat.le_refl _⟩
  | .closeObject :: rest => ⟨([], .inl .closed), rest, Nat.le_succ _⟩
  | .comma :: rest =>
      match rest with
      | [] => ⟨([], .inl .cutAfterComma), [], Nat.zero_le _⟩
      | .closeObject :: rest =>
          ⟨([], .inl .closedAfterComma), rest, by simp only [List.length_cons]; omega⟩
      | token :: rest =>
          match parseMember token rest with
          | ⟨members, after, within⟩ =>
              ⟨members, after, by simp only [List.length_cons]; omega⟩
  | _ :: rest => ⟨([], .inl .unseparated), rest, Nat.le_succ _⟩
termination_by 4 * tokens.length

end

/-- The document of a text, and whether more follows it. -/
def ofText (text : String) : Document × Bool :=
  match Token.scan text.toList with
  | [] => (.absent, false)
  | token :: rest =>
      let parsed := parseValue token rest
      (parsed.result, !parsed.rest.isEmpty)

end Document

end Playback.Json
