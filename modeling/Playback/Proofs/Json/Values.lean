import Playback.Json.Reader.Value
import Playback.Proofs.Json.Contents
import Playback.Proofs.Json.Doubles
import Playback.Proofs.Json.Readers
import Playback.Proofs.Json.Sorting

namespace Playback.Json

/-- A numeral stands for the number. -/
def Number.Numeric (number : Number) : Prop :=
  ∃ numeral : Numeral, numeral.number? = some number

/-- The number of a token, if it is one, is that of a numeral. -/
def Token.Numeric (token : Token) : Prop :=
  ∀ number, token = .number (.exact number) → number.Numeric

theorem numeric_of_next (letter : Char) (letters : List Char) :
    (Token.next letter letters).1.Numeric := by
  intro number same
  rw [Token.next] at same
  split at same
  · rename_i token mark
    -- Neither marks nor words are numbers.
    subst same
    revert mark
    unfold Token.mark?
    split <;> rintro ⟨⟩
  · split at same
    · rename_i expected token word
      split at same
      · subst same
        revert word
        unfold Token.word?
        split <;> rintro ⟨⟩
      · cases same
    · split at same
      · cases same
      · split at same
        · cases scanned : Numeral.scan (letter :: letters) with
          | mk written rest =>
              rw [scanned] at same
              cases same
              obtain ⟨numeral, _, found⟩ := Numeral.read_of_scan scanned
              exact ⟨numeral, found⟩
        · cases same

/-- The numbers of a text are those of numerals. -/
theorem numeric_of_scan (letters : List Char) : ∀ token ∈ Token.scan letters, token.Numeric := by
  fun_induction Token.scan letters with
  | case1 => exact nofun
  | case2 letter letters blank inductionHypothesis => exact inductionHypothesis
  | case3 letter letters shown rest inductionHypothesis =>
      exact List.forall_mem_cons.mpr ⟨numeric_of_next letter letters, inductionHypothesis⟩

namespace Reader

open Document

/-- A property of values and the room that they need. It is kept when values are put together from
tokens with another property and from values whose texts are embedded. -/
structure Closed (holds : Token → Prop) (embedded : String → Except ReadFault Json)
    (good : Nat → Json → Prop) : Prop where
  null : ∀ room, good room .null
  boolean : ∀ room value, good room (.boolean value)
  number : ∀ room number, holds (.number (.exact number)) → good room (.number number)
  text : ∀ room value, good room (.text value)
  list : ∀ room values, (∀ value ∈ values, good room value) → good (room + 1) (.list values)
  object : ∀ room members,
    (∀ member ∈ members, holds (.text (.plain member.1)) ∧ good room member.2) →
      good (room + 1) (.object (sortMembers members))
  held : ∀ room text value, holds (.text (.plain holderKey)) → embedded text = .ok value →
    good room value

section Reading

variable {holds : Token → Prop} {embedded : String → Except ReadFault Json}
  {good : Nat → Json → Prop}

theorem embedded_of_held? {ending : Ending} {members : List (Quoted × Document)} {value : Json}
    (found : held? embedded ending members = some (.ok value)) :
    (∃ document rest, members = (.plain holderKey, document) :: rest) ∧
      ∃ text, embedded text = .ok value := by
  unfold held? at found
  split at found
  · rename_i key document rest
    split at found
    · rename_i same
      subst same
      refine ⟨⟨document, rest, rfl⟩, ?_⟩
      obtain ⟨_, _, found⟩ := bind_eq_ok.mp (Option.some.inj found)
      obtain ⟨inner, embedded, found⟩ := bind_eq_ok.mp found
      obtain ⟨_, _, found⟩ := bind_eq_ok.mp found
      obtain rfl := Except.ok.inj found
      exact ⟨_, embedded⟩
    · contradiction
  · contradiction

/-- The value of an embedded text is one of an object that begins with the key of such texts. -/
theorem good_of_held? (closed : Closed holds embedded good) {ending : Ending}
    {members : List (Quoted × Document)} {room : Nat} {value : Json}
    (lawful : HoldsMembers holds members)
    (found : held? embedded ending members = some (.ok value)) : good room value := by
  obtain ⟨⟨document, rest, rfl⟩, text, inner⟩ := embedded_of_held? found
  exact closed.held room text value lawful.1 inner

/-- A value that was read is good, as each of its parts is. -/
theorem good_of_valueOf (closed : Closed holds embedded good) (document : Document) (room : Nat)
    (lawful : Holds holds document) (value : Json)
    (read : valueOf embedded document room = .ok value) : good room value := by
  revert lawful value
  apply @valueOf.induct embedded
    (fun document room => Holds holds document → ∀ value,
      valueOf embedded document room = .ok value → good room value)
    (fun members room => HoldsMembers holds members → ∀ entries,
      entriesOf embedded members room = .ok entries →
        ∀ entry ∈ entries, holds (.text (.plain entry.1)) ∧ good room entry.2)
    (fun items room => HoldsItems holds items → ∀ values,
      valuesOf embedded items room = .ok values → ∀ value ∈ values, good room value)
  case case1 =>
    intro room _ value read
    obtain rfl := Except.ok.inj read
    exact closed.null room
  case case2 =>
    intro truth room _ value read
    obtain rfl := Except.ok.inj read
    exact closed.boolean room truth
  case case3 =>
    intro number room lawful value read
    obtain rfl := Except.ok.inj read
    exact closed.number room number lawful
  case case4 =>
    intro text room _ value read
    obtain rfl := Except.ok.inj read
    exact closed.text room text
  case case6 =>
    intro items ending room inner lawful value read
    rw [valueOf] at read
    obtain ⟨values, found, read⟩ := bind_eq_ok.mp read
    obtain ⟨_, _, read⟩ := bind_eq_ok.mp read
    obtain rfl := Except.ok.inj read
    exact closed.list room values (inner lawful values found)
  case case8 =>
    intro members ending room result held lawful value read
    simp only [valueOf, held] at read
    rw [read] at held
    exact good_of_held? closed lawful held
  case case9 =>
    intro members ending room plain inner lawful value read
    simp only [valueOf, plain] at read
    obtain ⟨entries, found, read⟩ := bind_eq_ok.mp read
    obtain ⟨_, _, read⟩ := bind_eq_ok.mp read
    obtain rfl := Except.ok.inj read
    exact closed.object room entries (inner lawful entries found)
  case case11 =>
    intro members other room result held lawful value read
    simp only [valueOf, held] at read
    rw [read] at held
    exact good_of_held? closed lawful held
  case case12 =>
    intro members other room plain _ _ value read
    simp only [valueOf, plain] at read
    obtain ⟨_, _, read⟩ := bind_eq_ok.mp read
    contradiction
  case case14 =>
    intro _ _ values read
    obtain rfl := Except.ok.inj read
    exact nofun
  case case15 =>
    rintro item rest room first others ⟨itemLawful, restLawful⟩ values read
    rw [valuesOf] at read
    obtain ⟨value, one, read⟩ := bind_eq_ok.mp read
    obtain ⟨tail, more, read⟩ := bind_eq_ok.mp read
    obtain rfl := Except.ok.inj read
    exact List.forall_mem_cons.mpr ⟨first itemLawful value one, others restLawful tail more⟩
  case case16 =>
    intro _ _ entries read
    obtain rfl := Except.ok.inj read
    exact nofun
  case case17 =>
    rintro key item rest room first others ⟨keyLawful, itemLawful, restLawful⟩ entries read
    rw [entriesOf] at read
    obtain ⟨name, named, read⟩ := bind_eq_ok.mp read
    obtain ⟨value, one, read⟩ := bind_eq_ok.mp read
    obtain ⟨tail, more, read⟩ := bind_eq_ok.mp read
    obtain rfl := Except.ok.inj read
    have same : key = .plain name := by
      cases key <;> simp_all [Document.key, flawed]
    exact List.forall_mem_cons.mpr
      ⟨⟨same ▸ keyLawful, first itemLawful value one⟩, others restLawful tail more⟩
  all_goals
    intros
    simp_all [valueOf]

end Reading

/-- A whole text was read from its document. -/
theorem read_of_run {A : Type} {read : Reader A} {text : String} {value : A}
    (found : run read text = .ok value) : read greatestDepth (Document.ofText text).1 = .ok value := by
  rw [run] at found
  cases done : read greatestDepth (Document.ofText text).1 with
  | error fault => simp [done] at found
  | ok same =>
      simp only [done] at found
      split at found
      · contradiction
      · exact found

/-- A text with nothing after its document is read by the document. -/
theorem run_of_document {A : Type} {read : Reader A} {text : String} {document : Document}
    (whole : Document.ofText text = (document, false)) :
    run read text = read greatestDepth document := by
  simp only [run, whole]
  cases read greatestDepth document with
  | error fault => rfl
  | ok value => rfl

end Reader

mutual

/-- The members of all objects in a value are sorted. -/
def Regular : Json → Prop
  | .null | .boolean _ | .number _ | .text _ => True
  | .list items => RegularItems items
  | .object members => Sorted members ∧ RegularMembers members

def RegularItems : List Json → Prop
  | [] => True
  | item :: rest => Regular item ∧ RegularItems rest

def RegularMembers : List (String × Json) → Prop
  | [] => True
  | (_, value) :: rest => Regular value ∧ RegularMembers rest

end

theorem regularItems_iff {items : List Json} :
    RegularItems items ↔ ∀ item ∈ items, Regular item := by
  induction items with
  | nil => simp [RegularItems]
  | cons item rest inductionHypothesis =>
      rw [RegularItems, List.forall_mem_cons, inductionHypothesis]

theorem regularMembers_iff {members : List (String × Json)} :
    RegularMembers members ↔ ∀ member ∈ members, Regular member.2 := by
  induction members with
  | nil => simp [RegularMembers]
  | cons member rest inductionHypothesis =>
      rw [RegularMembers, List.forall_mem_cons, inductionHypothesis]

/-- The values that a text can stand for. -/
structure Legible (value : Json) : Prop where
  regular : Regular value
  numeric : AllNumbers Number.Numeric value

/-- Legible values are put together to legible values. -/
theorem closed_legible {embedded : String → Except ReadFault Json}
    (inner : ∀ text value, embedded text = .ok value → Legible value) :
    Reader.Closed Token.Numeric embedded fun _ => Legible where
  null := fun _ => ⟨trivial, allNumbers_null⟩
  boolean := fun _ value => ⟨trivial, allNumbers_boolean value⟩
  number := fun _ number numeric => ⟨trivial, allNumbers_number.mpr (numeric number rfl)⟩
  text := fun _ value => ⟨trivial, allNumbers_text value⟩
  list := fun _ _ legible =>
    ⟨regularItems_iff.mpr fun value member => (legible value member).regular,
      allNumbers_list.mpr fun value member => (legible value member).numeric⟩
  object := fun _ members legible => by
    have known (member : String × Json) (sorted : member ∈ sortMembers members) :=
      (legible member (mem_of_mem_sortMembers sorted)).2
    exact ⟨⟨sorted_sortMembers members,
        regularMembers_iff.mpr fun member sorted => (known member sorted).regular⟩,
      allNumbers_object.mpr fun member sorted => (known member sorted).numeric⟩
  held := fun _ text value _ embedded => inner text value embedded

theorem legible_of_embeddedValue (text : String) (value : Json)
    (read : Reader.embeddedValue text = .ok value) : Legible value := by
  induction text using Reader.embeddedValue.induct generalizing value with
  | case1 text inductionHypothesis =>
      rw [Reader.embeddedValue] at read
      have read := Reader.read_of_run read
      have lawful := Document.holds_ofText Token.Numeric (numeric_of_scan text.toList)
      refine Reader.good_of_valueOf (closed_legible fun inner value embedded => ?_) _ _ lawful
        value read
      split at embedded
      · rename_i shorter
        exact inductionHypothesis inner shorter value embedded
      · contradiction

/-- Every value that is read is legible. -/
theorem legible_of_value {room : Nat} {document : Document} {value : Json}
    (lawful : document.Holds Token.Numeric) (read : Reader.value room document = .ok value) :
    Legible value :=
  Reader.good_of_valueOf (closed_legible legible_of_embeddedValue) document room lawful value read

section Room

/-- An object whose first key is that of embedded texts is not read by its members. -/
def seemsHolder : List (String × Json) → Bool
  | [] => false
  | (key, _) :: _ => key == Reader.holderKey

mutual

/-- The value does not open more containers than there is room for, and none of its objects seems to
hold the text of a value. -/
def isReadable : Json → Nat → Bool
  | .list _, 0 | .object _, 0 => false
  | .list items, room + 1 => areReadable items room
  | .object members, room + 1 => !seemsHolder members && areReadableMembers members room
  | _, _ => true

def areReadable : List Json → Nat → Bool
  | [], _ => true
  | item :: rest, room => isReadable item room && areReadable rest room

def areReadableMembers : List (String × Json) → Nat → Bool
  | [], _ => true
  | (_, value) :: rest, room => isReadable value room && areReadableMembers rest room

end

theorem areReadable_iff {items : List Json} {room : Nat} :
    areReadable items room = true ↔ ∀ item ∈ items, isReadable item room = true := by
  induction items with
  | nil => simp [areReadable]
  | cons item rest inductionHypothesis =>
      rw [areReadable, Bool.and_eq_true, List.forall_mem_cons, inductionHypothesis]

theorem areReadableMembers_iff {members : List (String × Json)} {room : Nat} :
    areReadableMembers members room = true ↔
      ∀ member ∈ members, isReadable member.2 room = true := by
  induction members with
  | nil => simp [areReadableMembers]
  | cons member rest inductionHypothesis =>
      rw [areReadableMembers, Bool.and_eq_true, List.forall_mem_cons, inductionHypothesis]

/-- The token is not the key of embedded texts. -/
def Token.Ordinary (token : Token) : Prop := token ≠ .text (.plain Reader.holderKey)

theorem closed_isReadable :
    Reader.Closed Token.Ordinary Reader.embeddedValue fun room value =>
      isReadable value room = true where
  null := fun _ => rfl
  boolean := fun _ _ => rfl
  number := fun _ _ _ => rfl
  text := fun _ _ => rfl
  list := fun _ _ readable => areReadable_iff.mpr readable
  object := fun room members readable => by
    have known (member : String × Json) (sorted : member ∈ sortMembers members) :=
      readable member (mem_of_mem_sortMembers sorted)
    rw [isReadable, Bool.and_eq_true]
    refine ⟨?_, areReadableMembers_iff.mpr fun member sorted => (known member sorted).2⟩
    cases first : sortMembers members with
    | nil => rfl
    | cons member rest =>
        have ordinary := (known member (first ▸ List.mem_cons_self)).1
        rw [seemsHolder, Bool.not_eq_true', beq_eq_false_iff_ne]
        exact fun same => ordinary (by rw [same])
  held := fun _ _ _ holder _ => absurd rfl holder

/-- Without the key of embedded texts, a value that is read needs no more room than its document. -/
theorem isReadable_of_value {room : Nat} {document : Document} {value : Json}
    (lawful : document.Holds Token.Ordinary) (read : Reader.value room document = .ok value) :
    isReadable value room = true :=
  Reader.good_of_valueOf closed_isReadable document room lawful value read

end Room

end Playback.Json
