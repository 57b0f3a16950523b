import Playback.Json.Document
import Playback.Proofs.Json.Tokens

namespace Playback.Json

def Number.document (number : Number) : Document :=
  if number.text = "null" then .null else .number (Numeral.scan number.text.toList).1

mutual

/-- The document of a written value. -/
def document : Json → Document
  | .null => .null
  | .boolean value => .boolean value
  | .number value => value.document
  | .text value => .text (.plain value)
  | .list items => .list (documentsOfItems items) .closed
  | .object members => .object (documentsOfMembers members) .closed

def documentsOfItems : List Json → List Document
  | [] => []
  | item :: rest => document item :: documentsOfItems rest

def documentsOfMembers : List (String × Json) → List (Quoted × Document)
  | [] => []
  | (key, value) :: rest => (.plain key, document value) :: documentsOfMembers rest

end

namespace Document

/-- What was parsed and the tokens after it. -/
def Parsed.pair {result : Type} {bound : Nat} (parsed : Parsed result bound) :
    result × List Token :=
  (parsed.result, parsed.rest)

section Steps

variable {token : Token} {rest : List Token}

theorem parseList_pair (opens : token ≠ .closeList) :
    (parseList (token :: rest)).pair = (parseItem token rest).pair := by
  rw [parseList]
  · rfl
  · exact opens

theorem parseItem_pair :
    (parseItem token rest).pair =
      let first := (parseValue token rest).pair
      let others := (parseItems first.2).pair
      ((first.1 :: others.1.1, others.1.2), others.2) := by
  rw [parseItem]
  rfl

theorem parseItems_pair (opens : token ≠ .closeList) :
    (parseItems (.comma :: token :: rest)).pair = (parseItem token rest).pair := by
  rw [parseItems]
  · rfl
  · exact opens

theorem parseObject_pair {key : Quoted} :
    (parseObject (.text key :: rest)).pair = (parseMember (.text key) rest).pair := by
  rw [parseObject]
  · rfl
  · intro same
    contradiction

theorem parseMember_pair {key : Quoted} :
    (parseMember (.text key) (.colon :: token :: rest)).pair =
      let first := (parseValue token rest).pair
      let others := (parseMembers first.2).pair
      (((key, first.1) :: others.1.1, others.1.2), others.2) := by
  rw [parseMember, parseMarked]
  rfl

theorem parseMembers_pair {key : Quoted} :
    (parseMembers (.comma :: .text key :: rest)).pair = (parseMember (.text key) rest).pair := by
  rw [parseMembers]
  · rfl
  · intro same
    contradiction

end Steps

/-- The token starts a value. -/
def Starts : Token → Prop
  | .closeList | .closeObject | .comma | .colon => False
  | _ => True

/-- The tokens are parsed as the document, and nothing after them is touched. -/
def Parses (tokens : List Token) (document : Document) : Prop :=
  ∃ token more, tokens = token :: more ∧ Starts token ∧
    ∀ rest, (parseValue token (more ++ rest)).pair = (document, rest)

/-- The tokens are parsed as a member. -/
def ParsesMember (tokens : List Token) (member : Quoted × Document) : Prop :=
  ∃ more, tokens = .text member.1 :: .colon :: more ∧ Parses more member.2

section Sequences

theorem Starts.not_closeList {token : Token} (starts : Starts token) : token ≠ .closeList := by
  rintro rfl
  exact starts

theorem parses_items {parts : List (List Token)} {documents : List Document}
    (parses : List.Forall₂ Parses parts documents) (given : parts ≠ []) :
    ∃ token more, separated parts = token :: more ∧ Starts token ∧
      ∀ rest, (parseItem token (more ++ .closeList :: rest)).pair =
        ((documents, .closed), rest) := by
  induction parses with
  | nil => contradiction
  | @cons part document parts documents first others inductionHypothesis =>
      obtain ⟨token, more, rfl, starts, parsed⟩ := first
      cases others with
      | nil =>
          refine ⟨token, more, rfl, starts, fun rest => ?_⟩
          rw [parseItem_pair, parsed]
          dsimp only
          rw [parseItems]
          rfl
      | cons second others =>
          obtain ⟨next, after, same, nextStarts, rest⟩ := inductionHypothesis (by simp)
          refine ⟨token, more ++ .comma :: next :: after, ?_, starts, fun tail => ?_⟩
          · rw [separated, same]
            · rfl
            · simp
          · rw [List.append_assoc, List.cons_append, List.cons_append, parseItem_pair, parsed]
            dsimp only
            rw [parseItems_pair nextStarts.not_closeList, rest tail]

theorem parses_list {parts : List (List Token)} {documents : List Document}
    (parses : List.Forall₂ Parses parts documents) :
    Parses (.openList :: (separated parts ++ [.closeList])) (.list documents .closed) := by
  refine ⟨_, _, rfl, trivial, fun rest => ?_⟩
  have value (tokens : List Token) : (parseValue .openList tokens).pair =
      (ofItems (parseList tokens).pair.1, (parseList tokens).pair.2) := by
    rw [parseValue]
    rfl
  rw [value]
  cases parses with
  | nil =>
      rw [separated, List.nil_append, List.cons_append, List.nil_append, parseList]
      rfl
  | cons first others =>
      obtain ⟨token, more, same, starts, parsed⟩ := parses_items (.cons first others) (by simp)
      rw [same, List.append_assoc, List.cons_append, List.singleton_append,
        parseList_pair starts.not_closeList, parsed]
      rfl

theorem parses_members {parts : List (List Token)} {members : List (Quoted × Document)}
    (parses : List.Forall₂ ParsesMember parts members) (given : parts ≠ []) :
    ∃ key more, separated parts = .text key :: more ∧
      ∀ rest, (parseMember (.text key) (more ++ .closeObject :: rest)).pair =
        ((members, .inl .closed), rest) := by
  induction parses with
  | nil => contradiction
  | @cons part member parts members first others inductionHypothesis =>
      obtain ⟨_, rfl, token, more, rfl, _, parsed⟩ := first
      cases others with
      | nil =>
          refine ⟨member.1, .colon :: token :: more, rfl, fun rest => ?_⟩
          simp only [List.cons_append]
          rw [parseMember_pair, parsed]
          dsimp only
          rw [parseMembers]
          rfl
      | cons second others =>
          obtain ⟨key, after, same, rest⟩ := inductionHypothesis (by simp)
          refine ⟨member.1, .colon :: token :: (more ++ .comma :: .text key :: after), ?_,
            fun tail => ?_⟩
          · rw [separated, same]
            · rfl
            · simp
          · rw [List.cons_append, List.cons_append, List.append_assoc, List.cons_append,
              List.cons_append, parseMember_pair, parsed]
            dsimp only
            rw [parseMembers_pair, rest tail]

theorem parses_object {parts : List (List Token)} {members : List (Quoted × Document)}
    (parses : List.Forall₂ ParsesMember parts members) :
    Parses (.openObject :: (separated parts ++ [.closeObject])) (.object members .closed) := by
  refine ⟨_, _, rfl, trivial, fun rest => ?_⟩
  have value (tokens : List Token) : (parseValue .openObject tokens).pair =
      (ofMembers (parseObject tokens).pair.1, (parseObject tokens).pair.2) := by
    rw [parseValue]
    rfl
  rw [value]
  cases parses with
  | nil =>
      rw [separated, List.nil_append, List.cons_append, List.nil_append, parseObject]
      rfl
  | cons first others =>
      obtain ⟨key, more, same, parsed⟩ := parses_members (.cons first others) (by simp)
      rw [same, List.append_assoc, List.cons_append, List.singleton_append,
        parseObject_pair, parsed]
      rfl

end Sequences

theorem parses_number (number : Number) : Parses [number.token] number.document := by
  rw [Number.token, Number.document]
  split
  · refine ⟨_, _, rfl, trivial, fun rest => ?_⟩
    rw [parseValue]
    rfl
  · refine ⟨_, _, rfl, trivial, fun rest => ?_⟩
    rw [parseValue]
    rfl

mutual

/-- The tokens of a value are parsed as its document. -/
theorem parses_tokens (value : Json) : Parses value.tokens value.document :=
  match value with
  | .null => ⟨_, _, rfl, trivial, fun rest => by rw [parseValue]; rfl⟩
  | .boolean _ => ⟨_, _, rfl, trivial, fun rest => by rw [parseValue]; rfl⟩
  | .number value => parses_number value
  | .text _ => ⟨_, _, rfl, trivial, fun rest => by rw [parseValue]; rfl⟩
  | .list items => parses_list (parses_tokensOfItems items)
  | .object members => parses_object (parses_tokensOfMembers members)

theorem parses_tokensOfItems (items : List Json) :
    List.Forall₂ Parses (tokensOfItems items) (documentsOfItems items) :=
  match items with
  | [] => .nil
  | item :: rest => .cons (parses_tokens item) (parses_tokensOfItems rest)

theorem parses_tokensOfMembers (members : List (String × Json)) :
    List.Forall₂ ParsesMember (tokensOfMembers members) (documentsOfMembers members) :=
  match members with
  | [] => .nil
  | (_, value) :: rest => .cons ⟨_, rfl, parses_tokens value⟩ (parses_tokensOfMembers rest)

end

/-- A text with the tokens of a value has the document of the value and nothing after it. -/
theorem ofText_of_tokens {text : String} {value : Json}
    (scanned : Token.scan text.toList = value.tokens) :
    ofText text = (value.document, false) := by
  obtain ⟨token, more, same, _, parsed⟩ := parses_tokens value
  have parsed := parsed []
  rw [List.append_nil] at parsed
  obtain ⟨found, rest⟩ := Prod.mk.inj parsed
  rw [ofText, scanned, same]
  simp only [found, rest, List.isEmpty_nil, Bool.not_true]

/-- Both texts of a value have its document. -/
theorem ofText_texts {value : Json} (clear : ∀ number ∈ value.numbers, number.Clear) :
    ofText value.compact = (value.document, false) ∧
      ofText value.pretty = (value.document, false) := by
  obtain ⟨compact, pretty⟩ := scan_texts clear
  exact ⟨ofText_of_tokens compact, ofText_of_tokens pretty⟩

end Document

end Playback.Json
