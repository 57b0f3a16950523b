import Playback.Proofs.Json.Lexemes
import Playback.Proofs.Json.Rereading

namespace Playback.Json

namespace Document

mutual

/-- Nothing in the document is broken, missing or out of place. -/
def Whole : Document → Prop
  | .null | .boolean _ => True
  | .number written => Token.Sound (.number written)
  | .text quoted => Token.Sound (.text quoted)
  | .list items ending => WholeItems items ∧ ending = .closed
  | .object members ending => WholeMembers members ∧ ending = .closed
  | .misnamed _ _ | .stray _ | .severed _ | .absent => False

def WholeItems : List Document → Prop
  | [] => True
  | item :: rest => Whole item ∧ WholeItems rest

def WholeMembers : List (Quoted × Document) → Prop
  | [] => True
  | (key, value) :: rest => Token.Sound (.text key) ∧ Whole value ∧ WholeMembers rest

end

theorem wholeMembers_iff {members : List (Quoted × Document)} :
    WholeMembers members ↔ ∀ member ∈ members, Token.Sound (.text member.1) ∧ member.2.Whole := by
  induction members with
  | nil => simp [WholeMembers]
  | cons member rest inductionHypothesis =>
      simp only [WholeMembers, inductionHypothesis, List.forall_mem_cons]
      tauto

theorem wholeMembers_append {front back : List (Quoted × Document)} :
    WholeMembers (front ++ back) ↔ WholeMembers front ∧ WholeMembers back := by
  simp only [wholeMembers_iff, List.forall_mem_append]

mutual

/-- The tokens of a whole document. -/
def tokens : Document → List Token
  | .null => [.null]
  | .boolean value => [.boolean value]
  | .number written => [.number written]
  | .text quoted => [.text quoted]
  | .list items _ => .openList :: (separated (tokensOfItems items) ++ [.closeList])
  | .object members _ => .openObject :: (separated (tokensOfMembers members) ++ [.closeObject])
  | .misnamed _ _ | .stray _ | .severed _ | .absent => []

def tokensOfItems : List Document → List (List Token)
  | [] => []
  | item :: rest => tokens item :: tokensOfItems rest

def tokensOfMembers : List (Quoted × Document) → List (List Token)
  | [] => []
  | (key, value) :: rest => (.text key :: .colon :: tokens value) :: tokensOfMembers rest

end

/-- The text is JSON and stands for the document. -/
def Spells (document : Document) (text : String) : Prop :=
  document.Whole ∧ Token.Spelling document.tokens text.toList

section Parsing

mutual

/-- The tokens of a whole document are parsed as it. -/
theorem parses_of_whole (document : Document) (whole : document.Whole) :
    Parses document.tokens document := by
  match document with
  | .null | .boolean _ | .number _ | .text _ =>
      exact ⟨_, _, rfl, trivial, fun rest => by rw [parseValue]; rfl⟩
  | .list items ending =>
      obtain ⟨whole, rfl⟩ := whole
      exact parses_list (parses_of_wholeItems items whole)
  | .object members ending =>
      obtain ⟨whole, rfl⟩ := whole
      exact parses_object (parses_of_wholeMembers members whole)

theorem parses_of_wholeItems (items : List Document) (whole : WholeItems items) :
    List.Forall₂ Parses (tokensOfItems items) items := by
  match items with
  | [] => exact .nil
  | item :: rest => exact .cons (parses_of_whole item whole.1) (parses_of_wholeItems rest whole.2)

theorem parses_of_wholeMembers (members : List (Quoted × Document)) (whole : WholeMembers members) :
    List.Forall₂ ParsesMember (tokensOfMembers members) members := by
  match members with
  | [] => exact .nil
  | (key, value) :: rest =>
      exact .cons ⟨_, rfl, parses_of_whole value whole.2.1⟩ (parses_of_wholeMembers rest whole.2.2)

end

/-- Parts after an earlier one, each with a comma before it. -/
def onward (parts : List (List Token)) : List Token := parts.flatMap (.comma :: ·)

theorem separated_cons (first : List Token) (rest : List (List Token)) :
    separated (first :: rest) = first ++ onward rest := by
  induction rest generalizing first with
  | nil => simp [separated, onward]
  | cons second rest inductionHypothesis =>
      rw [separated, inductionHypothesis]
      · rfl
      · simp

theorem separated_of_onward {parts : List (List Token)} {tokens rest : List Token} {closing : Token}
    (closes : closing ≠ .comma) (same : .comma :: tokens = onward parts ++ closing :: rest) :
    tokens = separated parts ++ closing :: rest := by
  cases parts with
  | nil => exact absurd (List.cons.inj same).1.symm closes
  | cons first others =>
      rw [separated_cons]
      exact (List.cons.inj same).2

/-- Items that are closed with nothing out of place. -/
def WholeUpTo (items : Items) : Prop := WholeItems items.1 ∧ items.2 = .closed

def WholeMembersUpTo (members : Members) : Prop :=
  WholeMembers members.1 ∧ members.2 = .inl .closed

/-- If the result is whole, the tokens are its own and those that are left. -/
def Reprints (tokens : List Token) {result : Type} {bound : Nat} (print : result → List Token)
    (whole : result → Prop) (parsed : Parsed result bound) : Prop :=
  whole parsed.result → tokens = print parsed.result ++ parsed.rest

theorem reprints_parseValue (token : Token) (rest : List Token) :
    Reprints (token :: rest) tokens Whole (parseValue token rest) := by
  -- A first item or member is told with a comma before it, like the later ones.
  apply @parseValue.induct
    (fun token rest => Reprints (token :: rest) tokens Whole (parseValue token rest))
    (fun tokens => Reprints tokens
      (fun members => separated (tokensOfMembers members.1) ++ [.closeObject]) WholeMembersUpTo
      (parseObject tokens))
    (fun token rest => Reprints (.comma :: token :: rest)
      (fun members => onward (tokensOfMembers members.1) ++ [.closeObject]) WholeMembersUpTo
      (parseMember token rest))
    (fun tokens => Reprints tokens
      (fun members => onward (tokensOfMembers members.1) ++ [.closeObject]) WholeMembersUpTo
      (parseMembers tokens))
    (fun tokens => Reprints tokens (fun document => .colon :: document.tokens) Whole
      (parseMarked tokens))
    (fun tokens => Reprints tokens
      (fun items => separated (tokensOfItems items.1) ++ [.closeList]) WholeUpTo
      (parseList tokens))
    (fun token rest => Reprints (.comma :: token :: rest)
      (fun items => onward (tokensOfItems items.1) ++ [.closeList]) WholeUpTo
      (parseItem token rest))
    (fun tokens => Reprints tokens
      (fun items => onward (tokensOfItems items.1) ++ [.closeList]) WholeUpTo
      (parseItems tokens))
  case case2 =>
    intro rest members after within parsed inner whole
    rw [parseValue, parsed] at whole ⊢
    rw [parsed] at inner
    obtain ⟨members, ending | found⟩ := members
    · obtain ⟨whole, rfl⟩ := whole
      exact congrArg (Token.openObject :: ·) (inner ⟨whole, rfl⟩)
    · exact whole.elim
  case case14 =>
    intro token rest closes members after within parsed inner whole
    rw [parseObject, parsed] at whole ⊢
    · rw [parsed] at inner
      have same := inner whole
      rw [List.append_assoc, List.singleton_append] at same ⊢
      exact separated_of_onward (by decide) same
    all_goals exact closes
  case case15 =>
    intro rest key first middle start marked others ending after within parsed value more whole
    rw [parseMember, marked] at whole ⊢
    simp only [parsed] at whole ⊢
    rw [marked] at value
    rw [parsed] at more
    obtain ⟨⟨sound, one, others⟩, closed⟩ := whole
    have front := value one
    have back := more ⟨others, closed⟩
    simp only at front back
    rw [front, back, tokensOfMembers]
    simp [onward]
  case case29 =>
    intro token rest closes items after within parsed inner whole
    rw [parseList, parsed] at whole ⊢
    · rw [parsed] at inner
      have same := inner whole
      rw [List.append_assoc, List.singleton_append] at same ⊢
      exact separated_of_onward (by decide) same
    all_goals exact closes
  case case30 =>
    intro token rest first middle start read others ending after within parsed value more whole
    rw [parseItem, read] at whole ⊢
    simp only [parsed] at whole ⊢
    rw [read] at value
    rw [parsed] at more
    obtain ⟨⟨one, others⟩, closed⟩ := whole
    have front := value one
    have back := more ⟨others, closed⟩
    simp only at front back
    rw [front, back, tokensOfItems]
    simp [onward]
  all_goals
    intros
    simp_all [Reprints, parseValue, parseObject, parseMember, parseMembers, parseMarked, parseList,
      parseItem, parseItems, Whole, WholeItems, WholeMembers, WholeUpTo, WholeMembersUpTo, tokens,
      tokensOfItems, tokensOfMembers, ofItems, separated, onward]

theorem sound_separated {parts : List (List Token)}
    (each : ∀ part ∈ parts, ∀ token ∈ part, token.Sound) :
    ∀ token ∈ separated parts, token.Sound := by
  cases parts with
  | nil => exact nofun
  | cons first rest =>
      rw [separated_cons]
      refine List.forall_mem_append.mpr ⟨each first List.mem_cons_self, fun token member => ?_⟩
      obtain ⟨part, known, member⟩ := List.mem_flatMap.mp member
      rcases List.mem_cons.mp member with rfl | inside
      · trivial
      · exact each part (List.mem_cons_of_mem _ known) token inside

/-- The tokens of a container are sound if those of its parts are. -/
theorem sound_bracketed {opening closing : Token} {parts : List (List Token)}
    (opens : opening.Sound) (closes : closing.Sound)
    (each : ∀ part ∈ parts, ∀ token ∈ part, token.Sound) :
    ∀ token ∈ opening :: (separated parts ++ [closing]), token.Sound :=
  List.forall_mem_cons.mpr ⟨opens, List.forall_mem_append.mpr
    ⟨sound_separated each, List.forall_mem_singleton.mpr closes⟩⟩

mutual

/-- All tokens of a whole document are sound. -/
theorem sound_of_whole (document : Document) (whole : document.Whole) :
    ∀ token ∈ document.tokens, token.Sound := by
  match document with
  | .null | .boolean _ => exact List.forall_mem_singleton.mpr trivial
  | .number _ | .text _ => exact List.forall_mem_singleton.mpr whole
  | .list items _ => exact sound_bracketed trivial trivial (sound_of_wholeItems items whole.1)
  | .object members _ =>
      exact sound_bracketed trivial trivial (sound_of_wholeMembers members whole.1)

theorem sound_of_wholeItems (items : List Document) (whole : WholeItems items) :
    ∀ part ∈ tokensOfItems items, ∀ token ∈ part, token.Sound := by
  match items with
  | [] => exact nofun
  | item :: rest =>
      exact List.forall_mem_cons.mpr
        ⟨sound_of_whole item whole.1, sound_of_wholeItems rest whole.2⟩

theorem sound_of_wholeMembers (members : List (Quoted × Document)) (whole : WholeMembers members) :
    ∀ part ∈ tokensOfMembers members, ∀ token ∈ part, token.Sound := by
  match members with
  | [] => exact nofun
  | (key, value) :: rest =>
      obtain ⟨sound, first, others⟩ := whole
      exact List.forall_mem_cons.mpr
        ⟨List.forall_mem_cons.mpr
          ⟨sound, List.forall_mem_cons.mpr ⟨trivial, sound_of_whole value first⟩⟩,
          sound_of_wholeMembers rest others⟩

end

/-- A text with the tokens of a whole document spells it. -/
theorem spells_of_scan {document : Document} {text : String} (whole : document.Whole)
    (scanned : Token.scan text.toList = document.tokens) : document.Spells text := by
  refine ⟨whole, ?_⟩
  rw [← scanned]
  exact Token.spelling_of_scan (scanned ▸ sound_of_whole document whole)

/-- A line feed may come at the end. -/
theorem Spells.append_feed {document : Document} {text : String} (spells : document.Spells text) :
    document.Spells (text ++ "\n") := by
  have letters : (text ++ "\n").toList = text.toList ++ ['\n'] := String.toList_append
  rw [Spells, letters]
  exact ⟨spells.1, spells.2.append_blank (by simp)⟩

/-- The texts of a whole document are those that are parsed as it with nothing after it. -/
theorem spells_iff {document : Document} {text : String} :
    document.Spells text ↔ document.Whole ∧ ofText text = (document, false) := by
  constructor
  · rintro ⟨whole, spelling⟩
    obtain ⟨scanned, _⟩ := Token.scan_of_spelling spelling
    obtain ⟨token, more, same, _, parsed⟩ := parses_of_whole document whole
    have parsed := parsed []
    rw [List.append_nil] at parsed
    obtain ⟨found, rest⟩ := Prod.mk.inj parsed
    rw [ofText, scanned, same]
    simp only [found, rest, List.isEmpty_nil, Bool.not_true]
    exact ⟨whole, trivial⟩
  · rintro ⟨whole, parsed⟩
    refine spells_of_scan whole ?_
    rw [ofText] at parsed
    split at parsed
    · obtain ⟨rfl, _⟩ := Prod.mk.inj parsed
      exact whole.elim
    · rename_i token rest scanned
      obtain ⟨rfl, done⟩ := Prod.mk.inj parsed
      have none : (parseValue token rest).rest = [] := by
        simpa using done
      rw [scanned, reprints_parseValue token rest whole, none, List.append_nil]

end Parsing

mutual

/-- The document of a value is whole if the text of each number is one token. -/
theorem whole_document (value : Json) (clear : ∀ number ∈ value.numbers, number.Clear) :
    value.document.Whole := by
  match value with
  | .null | .boolean _ | .text _ => trivial
  | .number value =>
      rcases clear value List.mem_cons_self with null | ⟨same, scanned⟩
      · rw [Json.document, Number.document, if_pos null]
        trivial
      · rw [Json.document, Number.document_of_scan scanned]
        trivial
  | .list items => exact ⟨whole_documentsOfItems items clear, rfl⟩
  | .object members => exact ⟨whole_documentsOfMembers members clear, rfl⟩

theorem whole_documentsOfItems (items : List Json)
    (clear : ∀ number ∈ numbersOfItems items, number.Clear) :
    WholeItems (documentsOfItems items) := by
  match items with
  | [] => trivial
  | item :: rest =>
      obtain ⟨first, others⟩ := List.forall_mem_append.mp clear
      exact ⟨whole_document item first, whole_documentsOfItems rest others⟩

theorem whole_documentsOfMembers (members : List (String × Json))
    (clear : ∀ number ∈ numbersOfMembers members, number.Clear) :
    WholeMembers (documentsOfMembers members) := by
  match members with
  | [] => trivial
  | (key, value) :: rest =>
      obtain ⟨first, others⟩ := List.forall_mem_append.mp clear
      exact ⟨trivial, whole_document value first, whole_documentsOfMembers rest others⟩

end

/-- Both texts of a value spell its document. -/
theorem spells_texts {value : Json} (clear : AllNumbers Number.Clear value) :
    value.document.Spells value.compact ∧ value.document.Spells value.pretty := by
  obtain ⟨compact, pretty⟩ := ofText_texts clear
  have whole := whole_document value clear
  exact ⟨spells_iff.mpr ⟨whole, compact⟩, spells_iff.mpr ⟨whole, pretty⟩⟩

section Skipping

variable {ending : Ending}

theorem skipKey_eq_ok_iff {key : Quoted} : skipKey key = .ok () ↔ Token.Sound (.text key) := by
  cases key <;> simp [skipKey, Token.Sound]

theorem ofSkippedList_eq_ok_iff : ending.ofSkippedList = .ok () ↔ ending = .closed := by
  cases ending <;> simp [Ending.ofSkippedList]

theorem ofSkippedObject_eq_ok_iff : ending.ofSkippedObject = .ok () ↔ ending = .closed := by
  cases ending <;> simp [Ending.ofSkippedObject]

mutual

/-- A document is skipped without a flaw exactly if it is whole, whatever its depth. -/
theorem skip_eq_ok_iff (document : Document) : document.skip = .ok () ↔ document.Whole := by
  match document with
  | .null | .boolean _ => simp [skip, Whole]
  | .number written => cases written <;> simp [skip, Whole, Token.Sound]
  | .text quoted => exact skipKey_eq_ok_iff
  | .list items ending =>
      rw [skip, Whole, ← skipItems_eq_ok_iff items, ← ofSkippedList_eq_ok_iff]
      cases skipItems items <;> simp
  | .object members ending =>
      rw [skip, Whole, ← skipMembers_eq_ok_iff members, ← ofSkippedObject_eq_ok_iff]
      cases skipMembers members <;> simp
  | .misnamed members _ =>
      rw [skip, Whole]
      cases skipMembers members <;> simp
  | .stray _ | .severed _ | .absent => simp [skip, Whole]

theorem skipItems_eq_ok_iff (items : List Document) : skipItems items = .ok () ↔ WholeItems items := by
  match items with
  | [] => simp [skipItems, WholeItems]
  | item :: rest =>
      rw [skipItems, WholeItems, ← skip_eq_ok_iff item, ← skipItems_eq_ok_iff rest]
      cases skip item <;> simp

theorem skipMembers_eq_ok_iff (members : List (Quoted × Document)) :
    skipMembers members = .ok () ↔ WholeMembers members := by
  match members with
  | [] => simp [skipMembers, WholeMembers]
  | (key, value) :: rest =>
      rw [skipMembers, WholeMembers, ← skipKey_eq_ok_iff, ← skip_eq_ok_iff value,
        ← skipMembers_eq_ok_iff rest]
      cases skipKey key with
      | error flaw => simp
      | ok _ => cases skip value <;> simp

end

end Skipping

end Document

end Playback.Json
