import Mathlib.Data.List.Forall2
import Playback.Json.Token
import Playback.Proofs.Json.Contents
import Playback.Proofs.Json.Numerals
import Playback.Proofs.Json.Quoting

namespace Playback.Json

/-- The token of a number. An infinite one is written as null. -/
def Number.token (number : Number) : Token :=
  if number.text = "null" then .null else .number (Numeral.scan number.text.toList).1

/-- The text of a number is one token. -/
def Number.Clear (number : Number) : Prop :=
  number.text = "null" ∨ ∃ same, Numeral.scan number.text.toList = (.exact same, [])

/-- The tokens of a list with commas between its items. -/
def separated : List (List Token) → List Token
  | [] => []
  | [last] => last
  | first :: rest => first ++ .comma :: separated rest

mutual

def tokens : Json → List Token
  | .null => [.null]
  | .boolean value => [.boolean value]
  | .number value => [value.token]
  | .text value => [.text (.plain value)]
  | .list items => .openList :: (separated (tokensOfItems items) ++ [.closeList])
  | .object members => .openObject :: (separated (tokensOfMembers members) ++ [.closeObject])

def tokensOfItems : List Json → List (List Token)
  | [] => []
  | item :: rest => tokens item :: tokensOfItems rest

def tokensOfMembers : List (String × Json) → List (List Token)
  | [] => []
  | (key, value) :: rest =>
      (.text (.plain key) :: .colon :: tokens value) :: tokensOfMembers rest

end

/-- The text is scanned as the tokens wherever a number would end. -/
def Scans (text : String) (tokens : List Token) : Prop :=
  ∀ rest, Numeral.Ends rest → Token.scan (text.toList ++ rest) = tokens ++ Token.scan rest

section Pieces

variable {text : String} {letter : Char} {token : Token} {rest : List Char}

theorem scan_blank (blank : Token.isBlank letter = true) (rest : List Char) :
    Token.scan (letter :: rest) = Token.scan rest := by
  rw [Token.scan, if_pos blank]

theorem scan_mark (mark : Token.mark? letter = some token) (shown : Token.isBlank letter = false)
    (rest : List Char) : Token.scan (letter :: rest) = token :: Token.scan rest := by
  rw [Token.scan, if_neg (Bool.eq_false_iff.mp shown), Token.next, mark]

@[simp] theorem scan_comma (rest : List Char) :
    Token.scan (',' :: rest) = .comma :: Token.scan rest :=
  scan_mark rfl (by decide) rest

@[simp] theorem scan_colon (rest : List Char) :
    Token.scan (':' :: rest) = .colon :: Token.scan rest :=
  scan_mark rfl (by decide) rest

@[simp] theorem scan_space (rest : List Char) : Token.scan (' ' :: rest) = Token.scan rest :=
  scan_blank (by decide) rest

@[simp] theorem scan_line (rest : List Char) : Token.scan ('\n' :: rest) = Token.scan rest :=
  scan_blank (by decide) rest

theorem scan_indent (depth : Nat) (rest : List Char) :
    Token.scan ((indent depth).toList ++ rest) = Token.scan rest := by
  rw [indent, String.toList_ofList]
  induction 2 * depth with
  | zero => rfl
  | succ count inductionHypothesis =>
      rw [List.replicate_succ, List.cons_append, scan_space, inductionHypothesis]

theorem ends_of_first (stop : Numeral.continues letter = false) (rest : List Char) :
    Numeral.Ends (letter :: rest) := by
  intro other same
  obtain rfl := Option.some.inj same
  exact stop

theorem scans_null : Scans "null" [.null] := by
  intro rest _
  simp [Token.scan, Token.next, Token.mark?, Token.word?, Token.word, Token.isBlank]

theorem scans_truth (value : Bool) : Scans (truth value) [.boolean value] := by
  intro rest _
  cases value <;>
    simp [truth, Token.scan, Token.next, Token.mark?, Token.word?, Token.word, Token.isBlank]

theorem scans_quotedText (value : String) : Scans (quotedText value) [.text (.plain value)] := by
  intro rest _
  have letters : (quotedText value).toList ++ rest =
      '"' :: (value.toList.flatMap escapedLetter ++ '"' :: rest) := by
    simp [quotedText]
  have next : Token.next '"' (value.toList.flatMap escapedLetter ++ '"' :: rest) =
      (.text (.plain value), rest) := by
    simp [Token.next, Token.mark?, Token.word?, Quoted.scan_escaped]
  rw [letters, Token.scan, next]
  rfl

/-- No other token starts like a number. -/
theorem plain_of_numeric (numeric : letter = '-' ∨ Numeral.isDigit letter = true) :
    Token.isBlank letter = false ∧ Token.mark? letter = none ∧ Token.word? letter = none ∧
      letter ≠ '"' := by
  rcases numeric with rfl | digit
  · decide
  · refine ⟨?_, ?_, ?_, ?_⟩
    · have other (blank : Char) (plain : Numeral.isDigit blank = false) : letter ≠ blank := by
        rintro rfl
        exact Bool.eq_false_iff.mp plain digit
      simp [Token.isBlank, other ' ' (by decide), other '\n' (by decide), other '\t' (by decide),
        other '\r' (by decide)]
    · unfold Token.mark?
      split <;> first | rfl | contradiction
    · unfold Token.word?
      split <;> first | rfl | contradiction
    · rintro rfl
      contradiction

theorem scans_number {number : Number} (clear : number.Clear) :
    Scans number.text [number.token] := by
  rcases clear with infinite | ⟨same, scanned⟩
  · rw [Number.token, if_pos infinite, infinite]
    exact scans_null
  · obtain ⟨letter, others, letters, first⟩ := Numeral.starts_of_scan scanned
    have finite : number.text ≠ "null" := by
      intro null
      rw [null] at letters
      obtain ⟨rfl, _⟩ := List.cons.inj letters
      rcases first with minus | digit <;> contradiction
    obtain ⟨shown, unmarked, wordless, unquoted⟩ := plain_of_numeric first
    intro rest ends
    have whole := Numeral.scan_append scanned ends
    have next : Token.next letter (others ++ rest) = (.number (.exact same), rest) := by
      rw [letters, List.cons_append] at whole
      have numeral : (decide (letter = '-') || Numeral.isDigit letter) = true := by
        simpa using first
      simp [Token.next, unmarked, wordless, unquoted, numeral, whole]
    rw [Number.token, if_neg finite, scanned, letters, List.cons_append, Token.scan,
      if_neg (Bool.eq_false_iff.mp shown), next]
    rfl

/-- Texts with commas between them are scanned one after the other. -/
theorem scans_commaSeparated {texts : List String} {parts : List (List Token)}
    (scans : List.Forall₂ Scans texts parts) : Scans (commaSeparated texts) (separated parts) := by
  induction scans with
  | nil => exact fun rest _ => rfl
  | @cons text part texts parts first others inductionHypothesis =>
      cases others with
      | nil => exact first
      | cons second others =>
          intro rest ends
          rw [commaSeparated, separated]
          · have letters : ",".toList = [','] := rfl
            simp only [String.toList_append, List.append_assoc, letters, List.cons_append,
              List.nil_append]
            rw [first _ (ends_of_first (by decide) _), scan_comma, inductionHypothesis rest ends]
          all_goals simp

/-- The lines of a block are scanned one after the other. -/
theorem scans_lines {lines : List String} {parts : List (List Token)} (depth : Nat)
    (scans : List.Forall₂ Scans lines parts) :
    Scans (String.intercalate ",\n" (lines.map fun line => indent depth ++ line))
      (separated parts) := by
  induction scans with
  | nil => exact fun rest _ => rfl
  | @cons text part texts parts first others inductionHypothesis =>
      cases others with
      | nil =>
          intro rest ends
          simp only [List.map_cons, List.map_nil, String.intercalate_singleton,
            String.toList_append, List.append_assoc, scan_indent]
          exact first rest ends
      | cons second others =>
          intro rest ends
          rw [separated]
          · have letters : ",\n".toList = [',', '\n'] := rfl
            simp only [List.map_cons, String.intercalate_cons_cons, String.toList_append,
              List.append_assoc, scan_indent, letters, List.cons_append,
              List.nil_append] at inductionHypothesis ⊢
            rw [first _ (ends_of_first (by decide) _), scan_comma, scan_line,
              inductionHypothesis rest ends]
          all_goals simp

/-- The text is one mark, which also ends a number in front of it. -/
structure Marks (text : String) (token : Token) : Prop where
  scan : ∀ rest, Token.scan (text.toList ++ rest) = token :: Token.scan rest
  ends : ∀ rest, Numeral.Ends (text.toList ++ rest)

/-- Blanks after a mark do not count. -/
theorem marks_of_letters (blanks : List Char) (letters : text.toList = letter :: blanks)
    (mark : Token.mark? letter = some token) (unseen : blanks.all Token.isBlank = true) :
    Marks text token := by
  have plain : Token.isBlank letter = false ∧ Numeral.continues letter = false := by
    revert mark
    unfold Token.mark?
    split <;> first | exact fun _ => by decide | exact nofun
  have skipped (rest : List Char) : Token.scan (blanks ++ rest) = Token.scan rest := by
    clear letters
    induction blanks with
    | nil => rfl
    | cons blank blanks inductionHypothesis =>
        obtain ⟨first, others⟩ := Bool.and_eq_true_iff.mp unseen
        rw [List.cons_append, scan_blank first, inductionHypothesis others]
  constructor <;> intro rest
  · rw [letters, List.cons_append, scan_mark mark plain.1, skipped]
  · rw [letters]
    exact ends_of_first plain.2 _

/-- A member is scanned as its key, a colon and its value. -/
theorem scans_member {key mark : String} {part : List Token} (marks : Marks mark .colon)
    (scans : Scans text part) :
    Scans (quotedText key ++ mark ++ text) (.text (.plain key) :: .colon :: part) := by
  intro rest ends
  simp only [String.toList_append, List.append_assoc]
  rw [scans_quotedText key _ (marks.ends _), marks.scan, scans rest ends]
  rfl

/-- Brackets around a text are tokens of their own. -/
theorem scans_bracketed {opening closing : String} {first last : Token} {parts : List Token}
    (opens : Marks opening first) (closes : Marks closing last) (scans : Scans text parts) :
    Scans (opening ++ text ++ closing) (first :: (parts ++ [last])) := by
  intro rest _
  simp only [String.toList_append, List.append_assoc, List.cons_append, List.nil_append]
  rw [opens.scan, scans _ (closes.ends rest), closes.scan]

/-- The lines of a block stand between its brackets. -/
theorem scans_block {opening closing : String} {first last : Token} {lines : List String}
    {parts : List (List Token)} (opens : Marks opening first) (closes : Marks closing last)
    (depth : Nat) (scans : List.Forall₂ Scans lines parts) :
    Scans (block opening closing depth lines) (first :: (separated parts ++ [last])) := by
  cases scans with
  | nil =>
      intro rest _
      rw [block, String.toList_append, List.append_assoc, opens.scan, closes.scan]
      rfl
  | cons line others =>
      have inner := scans_lines (depth + 1) (.cons line others)
      intro rest _
      have feed : "\n".toList = ['\n'] := rfl
      rw [block]
      · simp only [String.toList_append, List.append_assoc, feed, List.cons_append,
          List.nil_append]
        rw [opens.scan, scan_line, inner _ (ends_of_first (by decide) _), scan_line, scan_indent,
          closes.scan]
      · simp

end Pieces

theorem marks_colon : Marks ":" .colon := marks_of_letters [] rfl rfl rfl

theorem marks_spacedColon : Marks ": " .colon := marks_of_letters [' '] rfl rfl rfl

theorem marks_openList : Marks "[" .openList := marks_of_letters [] rfl rfl rfl

theorem marks_closeList : Marks "]" .closeList := marks_of_letters [] rfl rfl rfl

theorem marks_openObject : Marks "\x7b" .openObject := marks_of_letters [] rfl rfl rfl

theorem marks_closeObject : Marks "\x7d" .closeObject := marks_of_letters [] rfl rfl rfl

section Values

mutual

/-- The compact text of a value is scanned as its tokens. -/
theorem scans_compact (value : Json) (clear : ∀ number ∈ value.numbers, number.Clear) :
    Scans value.compact value.tokens :=
  match value, clear with
  | .null, _ => scans_null
  | .boolean value, _ => scans_truth value
  | .number _, clear => scans_number (clear _ List.mem_cons_self)
  | .text value, _ => scans_quotedText value
  | .list items, clear =>
      scans_bracketed marks_openList marks_closeList
        (scans_commaSeparated (scans_compactItems items clear))
  | .object members, clear =>
      scans_bracketed marks_openObject marks_closeObject
        (scans_commaSeparated (scans_compactMembers members clear))

theorem scans_compactItems (items : List Json)
    (clear : ∀ number ∈ numbersOfItems items, number.Clear) :
    List.Forall₂ Scans (compactItems items) (tokensOfItems items) :=
  match items, clear with
  | [], _ => .nil
  | item :: rest, clear =>
      .cons (scans_compact item fun number member => clear number (List.mem_append_left _ member))
        (scans_compactItems rest fun number member =>
          clear number (List.mem_append_right _ member))

theorem scans_compactMembers (members : List (String × Json))
    (clear : ∀ number ∈ numbersOfMembers members, number.Clear) :
    List.Forall₂ Scans (compactMembers members) (tokensOfMembers members) :=
  match members, clear with
  | [], _ => .nil
  | (_, value) :: rest, clear =>
      .cons
        (scans_member marks_colon
          (scans_compact value fun number member => clear number (List.mem_append_left _ member)))
        (scans_compactMembers rest fun number member =>
          clear number (List.mem_append_right _ member))

end

mutual

/-- The pretty text of a value is scanned as its tokens. -/
theorem scans_prettyAt (depth : Nat) (value : Json)
    (clear : ∀ number ∈ value.numbers, number.Clear) :
    Scans (value.prettyAt depth) value.tokens :=
  match value, clear with
  | .null, _ => scans_null
  | .boolean value, _ => scans_truth value
  | .number _, clear => scans_number (clear _ List.mem_cons_self)
  | .text value, _ => scans_quotedText value
  | .list items, clear =>
      scans_block marks_openList marks_closeList depth (scans_prettyItems (depth + 1) items clear)
  | .object members, clear =>
      scans_block marks_openObject marks_closeObject depth
        (scans_prettyMembers (depth + 1) members clear)

theorem scans_prettyItems (depth : Nat) (items : List Json)
    (clear : ∀ number ∈ numbersOfItems items, number.Clear) :
    List.Forall₂ Scans (prettyItems depth items) (tokensOfItems items) :=
  match items, clear with
  | [], _ => .nil
  | item :: rest, clear =>
      .cons
        (scans_prettyAt depth item fun number member =>
          clear number (List.mem_append_left _ member))
        (scans_prettyItems depth rest fun number member =>
          clear number (List.mem_append_right _ member))

theorem scans_prettyMembers (depth : Nat) (members : List (String × Json))
    (clear : ∀ number ∈ numbersOfMembers members, number.Clear) :
    List.Forall₂ Scans (prettyMembers depth members) (tokensOfMembers members) :=
  match members, clear with
  | [], _ => .nil
  | (_, value) :: rest, clear =>
      .cons
        (scans_member marks_spacedColon
          (scans_prettyAt depth value fun number member =>
            clear number (List.mem_append_left _ member)))
        (scans_prettyMembers depth rest fun number member =>
          clear number (List.mem_append_right _ member))

end

variable {value : Json}

/-- Both texts of a value are scanned as its tokens. -/
theorem scan_texts (clear : ∀ number ∈ value.numbers, number.Clear) :
    Token.scan value.compact.toList = value.tokens ∧
      Token.scan value.pretty.toList = value.tokens := by
  have nothing : Numeral.Ends [] := nofun
  have compact := scans_compact value clear [] nothing
  have pretty := scans_prettyAt 0 value clear [] nothing
  have done : Token.scan [] = [] := by
    rw [Token.scan]
  simp only [List.append_nil, done] at compact pretty
  exact ⟨compact, pretty⟩

end Values

end Playback.Json
