import Playback.Edition
import Playback.Proofs.Json.Readers
import Playback.Proofs.Word

namespace Playback

open Json

namespace Edition

open Text

/-- The parts of a text between its dots. -/
def partsOf (text : String) : List (List Char) := text.toList.splitOn '.'

/-- The leftmost of the parts that is no word. -/
inductive FirstUnread : List (List Char) → List Char → Prop where
  | here {part : List Char} {parts : List (List Char)} (unread : ¬ IsWord part) :
      FirstUnread (part :: parts) part
  | later {first part : List Char} {parts : List (List Char)} (read : IsWord first)
      (others : FirstUnread parts part) : FirstUnread (first :: parts) part

/-- The fault names the leftmost of the parts that is no word. -/
def Names (parts : List (List Char)) (fault : Fault) : Prop :=
  ∃ part, FirstUnread parts part ∧ fault = .component (String.ofList part)

variable {letters part first : List Char} {parts : List (List Char)} {text : String}
  {edition : Edition}

theorem firstUnread_cons :
    FirstUnread (first :: parts) part ↔
      (¬ IsWord first ∧ part = first) ∨ (IsWord first ∧ FirstUnread parts part) := by
  constructor
  · intro named
    cases named with
    | here unread => exact .inl ⟨unread, rfl⟩
    | later read others => exact .inr ⟨read, others⟩
  · rintro (⟨unread, rfl⟩ | ⟨read, others⟩)
    · exact .here unread
    · exact .later read others

theorem cut_eq_splitOn (separator : Char) (letters : List Char) :
    cut separator letters = letters.splitOn separator := by
  induction letters with
  | nil => rfl
  | cons letter rest inductionHypothesis =>
      rw [cut, List.splitOn_cons_eq_if_modifyHead, inductionHypothesis]
      by_cases same : letter = separator
      · rw [if_pos same, if_pos (beq_iff_eq.mpr same)]
      · rw [if_neg same, if_neg (mt beq_iff_eq.mp same)]
        cases split : rest.splitOn separator with
        | nil => exact absurd split (List.splitOn_ne_nil separator rest)
        | cons first others => rfl

theorem length_cut (separator : Char) (letters : List Char) :
    (cut separator letters).length = letters.count separator + 1 := by
  induction letters with
  | nil => rfl
  | cons letter rest inductionHypothesis =>
      rw [cut, List.count_cons]
      by_cases same : letter = separator
      · simp [same, inductionHypothesis]
      · cases split : cut separator rest with
        | nil => simp [split] at inductionHypothesis
        | cons first others => simpa [same, split] using inductionHypothesis

theorem part_eq_ok_iff {value : UInt64} :
    Edition.part letters = .ok value ↔ Unsigned letters value.toNat := by
  rw [Edition.part, ← word?_eq_some_iff]
  cases word? letters <;> simp

theorem part_eq_error_iff {fault : Fault} :
    Edition.part letters = .error fault ↔
      ¬ IsWord letters ∧ fault = .component (String.ofList letters) := by
  rw [Edition.part, ← word?_eq_none_iff]
  cases word? letters <;> simp [eq_comm]

/-- A text with two dots has three parts, and they are read in order. -/
theorem ofText_of_two_dots (dots : text.toList.count '.' = 2) :
    ∃ major minor patch, partsOf text = [major, minor, patch] ∧
      ofText text = do
        return ⟨← Edition.part major, ← Edition.part minor, ← Edition.part patch⟩ := by
  have length := length_cut '.' text.toList
  rw [dots] at length
  obtain ⟨major, minor, patch, split⟩ := List.length_eq_three.mp length
  refine ⟨major, minor, patch, ?_, ?_⟩
  · rw [partsOf, ← cut_eq_splitOn, split]
  · rw [ofText, split]

theorem ofText_of_other_dots (other : text.toList.count '.' ≠ 2) :
    ofText text = .error (.format text) := by
  have length := length_cut '.' text.toList
  rw [ofText]
  split
  · rename_i split
    rw [split] at length
    exact absurd (Nat.succ.inj length).symm other
  · rfl

theorem ofText_eq_ok_iff :
    ofText text = .ok edition ↔
      text.toList.count '.' = 2 ∧ List.Forall₂ Unsigned (partsOf text) edition.parts := by
  by_cases dots : text.toList.count '.' = 2
  · obtain ⟨major, minor, patch, split, read⟩ := ofText_of_two_dots dots
    simp only [and_iff_right dots, read, split, parts, bind_eq_ok, part_eq_ok_iff]
    constructor
    · rintro ⟨first, major, second, minor, third, patch, ⟨⟩⟩
      exact .cons major (.cons minor (.cons patch .nil))
    · rintro (_ | ⟨major, _ | ⟨minor, _ | ⟨patch, _⟩⟩⟩)
      exact ⟨_, major, _, minor, _, patch, rfl⟩
  · rw [ofText_of_other_dots dots]
    exact iff_of_false nofun fun told => dots told.1

/-- A part is read before the others, and their faults count if it is a word. -/
theorem names_cons {A : Type} {next : UInt64 → Except Fault A} {fault : Fault}
    (others : ∀ value, next value = .error fault ↔ Names parts fault) :
    (Edition.part first >>= next) = .error fault ↔ Names (first :: parts) fault := by
  simp only [bind_eq_error, part_eq_error_iff, part_eq_ok_iff, others, exists_and_right,
    ← isWord_iff, Names, firstUnread_cons, or_and_right, exists_or, and_assoc, exists_and_left,
    exists_eq_left]

theorem not_names_nil {fault : Fault} : ¬ Names [] fault := by
  rintro ⟨part, ⟨⟩, _⟩

theorem ofText_eq_error_iff {fault : Fault} (dots : text.toList.count '.' = 2) :
    ofText text = .error fault ↔ Names (partsOf text) fault := by
  obtain ⟨major, minor, patch, split, read⟩ := ofText_of_two_dots dots
  rw [read, split]
  exact names_cons fun _ => names_cons fun _ => names_cons fun _ =>
    iff_of_false nofun not_names_nil

theorem ofText_eq_component_iff {named : String} :
    ofText text = .error (.component named) ↔
      text.toList.count '.' = 2 ∧ FirstUnread (partsOf text) named.toList := by
  by_cases dots : text.toList.count '.' = 2
  · rw [and_iff_right dots, ofText_eq_error_iff dots]
    constructor
    · rintro ⟨part, unread, same⟩
      rwa [Fault.component.inj same, String.toList_ofList]
    · exact fun unread => ⟨named.toList, unread, by rw [String.ofList_toList]⟩
  · rw [ofText_of_other_dots dots]
    exact iff_of_false nofun fun told => dots told.1

theorem ofText_eq_format_iff {named : String} :
    ofText text = .error (.format named) ↔ text.toList.count '.' ≠ 2 ∧ named = text := by
  by_cases dots : text.toList.count '.' = 2
  · rw [ofText_eq_error_iff dots]
    exact iff_of_false nofun fun told => told.1 dots
  · rw [ofText_of_other_dots dots]
    simp [dots, eq_comm]

theorem toList_text (edition : Edition) :
    edition.text.toList =
      Nat.toDigits 10 edition.major.toNat ++ '.' :: (Nat.toDigits 10 edition.minor.toNat ++
        '.' :: Nat.toDigits 10 edition.patch.toNat) := by
  have dot : ".".toList = ['.'] := rfl
  simp [Edition.text, dot, String.toList_append]

/-- An edition is read back from its text. -/
theorem ofText_text (edition : Edition) : ofText edition.text = .ok edition := by
  have plain (value : Nat) : '.' ∉ Nat.toDigits 10 value := by
    intro member
    have digit := Numeral.isDigit_of_mem_toDigits member
    contradiction
  have split : partsOf edition.text = edition.parts.map (Nat.toDigits 10) := by
    rw [partsOf, toList_text, List.splitOn_append_cons_self_of_not_mem (plain _),
      List.splitOn_append_cons_self_of_not_mem (plain _), List.splitOn_eq_singleton (plain _)]
    rfl
  refine ofText_eq_ok_iff.mpr ⟨?_, ?_⟩
  · simp [toList_text, List.count_eq_zero_of_not_mem (plain _)]
  · rw [split, List.forall₂_map_left_iff, List.forall₂_same]
    exact fun value _ => unsigned_toDigits value

end Edition

end Playback
