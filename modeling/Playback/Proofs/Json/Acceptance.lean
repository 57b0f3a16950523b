import Playback.Proofs.Json.Forms
import Playback.Proofs.Json.Grammar
import Playback.Json.Scalars

namespace Playback.Json

open Document

namespace Reader

/-- Whatever is read is whole. -/
def Demanding {A : Type} (read : Reader A) : Prop :=
  ∀ room document value, read room document = .ok value → document.Whole

section Scalars

variable {A B : Type} {read : Reader A}

theorem Demanding.map (demanding : Demanding read) (change : A → B) :
    Demanding (read.map change) := by
  intro room document value found
  obtain ⟨inner, first, _⟩ := map_eq_ok.mp found
  exact demanding room document inner first

theorem Demanding.refine (demanding : Demanding read) (test : A → Except String B) :
    Demanding (read.refine test) := by
  intro room document value found
  rw [Reader.refine] at found
  cases first : read room document with
  | error fault => simp [first] at found
  | ok inner => exact demanding room document inner first

theorem demanding_textAs (expected : String) : Demanding (textAs expected) := by
  intro room document value found
  unfold textAs at found
  split at found
  · trivial
  · contradiction

theorem demanding_text : Demanding text := demanding_textAs _

theorem demanding_boolean : Demanding boolean := by
  intro room document value found
  unfold boolean at found
  split at found
  · trivial
  · contradiction

theorem demanding_natural (bound : Nat) (expected : String) : Demanding (natural bound expected) := by
  intro room document value found
  unfold natural at found
  split at found
  · trivial
  · contradiction

theorem demanding_word64 (expected : String) : Demanding (word64 expected) :=
  (demanding_natural _ expected).map _

theorem demanding_word32 : Demanding word32 := (demanding_natural _ _).map _

theorem demanding_single : Demanding single := by
  intro room document value found
  unfold single at found
  split at found
  · trivial
  · trivial
  · trivial
  · contradiction

theorem Demanding.optional (demanding : Demanding read) : Demanding (Reader.optional read) := by
  intro room document value found
  unfold Reader.optional at found
  split at found
  · trivial
  · obtain ⟨inner, first, _⟩ := map_eq_ok.mp found
    exact demanding room _ inner first

theorem flawed_key_eq_ok_iff {key : Quoted} {name : String} :
    flawed (Document.key key) = .ok name ↔ key = .plain name := by
  cases key <;> simp [Document.key, flawed]

theorem eq_of_choiceMember {choices : List (String × A)} {members : List (Quoted × Document)}
    {ending : Option Ending} {value : A}
    (found : choiceMember choices members ending = .ok value) :
    ∃ name, members = [(.plain name, .null)] ∧ ending = some .closed := by
  cases members with
  | nil => contradiction
  | cons member rest =>
      obtain ⟨key, inner⟩ := member
      rw [choiceMember] at found
      obtain ⟨name, named, chosen⟩ := bind_eq_ok.mp found
      obtain rfl := flawed_key_eq_ok_iff.mp named
      obtain ⟨_, _, ended⟩ := bind_eq_ok.mp chosen
      split at ended
      · split at ended
        · exact ⟨name, rfl, rfl⟩
        · contradiction
        · contradiction
      · contradiction

theorem demanding_choice (choices : List (String × A)) : Demanding (choice choices) := by
  intro room document value found
  unfold choice at found
  split at found
  · trivial
  · contradiction
  · contradiction
  · obtain ⟨_, _, found⟩ := enter_eq_ok.mp found
    contradiction
  · obtain ⟨_, _, found⟩ := enter_eq_ok.mp found
    obtain ⟨name, rfl, same⟩ := eq_of_choiceMember found
    obtain rfl := Option.some.inj same
    exact ⟨⟨trivial, trivial, trivial⟩, rfl⟩
  · obtain ⟨_, _, found⟩ := enter_eq_ok.mp found
    contradiction
  · obtain ⟨_, _, found⟩ := enter_eq_ok.mp found
    obtain ⟨_, _, same⟩ := eq_of_choiceMember found
    contradiction
  · contradiction
  · contradiction
  · contradiction

end Scalars

section Containers

variable {A : Type} {read : Reader A} {ending : Ending} {room : Nat}

theorem ofList_eq_ok_iff : flawed ending.ofList = .ok () ↔ ending = .closed := by
  cases ending <;> simp [Ending.ofList, flawed]

theorem ofObject_eq_ok_iff : flawed ending.ofObject = .ok () ↔ ending = .closed := by
  cases ending <;> simp [Ending.ofObject, flawed]

theorem ofRecord_eq_ok_iff : flawed ending.ofRecord = .ok () ↔ ending = .closed := by
  cases ending <;> simp [Ending.ofRecord, flawed]

theorem wholeItems_of_items (demanding : Demanding read) {documents : List Document}
    {values : List A} (found : items read room documents = .ok values) : WholeItems documents := by
  induction documents generalizing values with
  | nil => trivial
  | cons document rest inductionHypothesis =>
      rw [items] at found
      obtain ⟨first, one, found⟩ := bind_eq_ok.mp found
      obtain ⟨others, more, _⟩ := bind_eq_ok.mp found
      exact ⟨demanding room document first one, inductionHypothesis more⟩

theorem Demanding.list (demanding : Demanding read) : Demanding (Reader.list read) := by
  intro room document value found
  unfold Reader.list at found
  split at found
  · obtain ⟨left, rfl, found⟩ := enter_eq_ok.mp found
    obtain ⟨values, each, found⟩ := bind_eq_ok.mp found
    obtain ⟨_, closed, _⟩ := bind_eq_ok.mp found
    exact ⟨wholeItems_of_items demanding each, ofList_eq_ok_iff.mp closed⟩
  · contradiction

theorem wholeMembers_of_members (demanding : Demanding read)
    {documents : List (Quoted × Document)} {values : List (String × A)}
    (found : members read room documents = .ok values) : WholeMembers documents := by
  induction documents generalizing values with
  | nil => trivial
  | cons member rest inductionHypothesis =>
      rw [members] at found
      obtain ⟨name, named, found⟩ := bind_eq_ok.mp found
      obtain ⟨first, one, found⟩ := bind_eq_ok.mp found
      obtain ⟨others, more, _⟩ := bind_eq_ok.mp found
      refine ⟨?_, demanding room member.2 first one, inductionHypothesis more⟩
      rw [flawed_key_eq_ok_iff.mp named]
      trivial

theorem Demanding.entries (demanding : Demanding read) : Demanding (Reader.entries read) := by
  intro room document value found
  unfold Reader.entries at found
  split at found
  · obtain ⟨left, rfl, found⟩ := enter_eq_ok.mp found
    obtain ⟨values, each, found⟩ := bind_eq_ok.mp found
    obtain ⟨_, closed, _⟩ := bind_eq_ok.mp found
    exact ⟨wholeMembers_of_members demanding each, ofObject_eq_ok_iff.mp closed⟩
  · obtain ⟨left, rfl, found⟩ := enter_eq_ok.mp found
    obtain ⟨values, each, found⟩ := bind_eq_ok.mp found
    contradiction
  · contradiction

theorem whole_of_held? {embedded : String → Except ReadFault Json}
    {members : List (Quoted × Document)} {value : Json}
    (found : held? embedded ending members = some (.ok value)) :
    WholeMembers members ∧ ending = .closed := by
  unfold held? at found
  split at found
  · rename_i key document rest
    split at found
    · obtain ⟨text, first, found⟩ := bind_eq_ok.mp (Option.some.inj found)
      obtain ⟨inner, _, found⟩ := bind_eq_ok.mp found
      obtain ⟨_, closed, _⟩ := bind_eq_ok.mp found
      have whole := demanding_textAs _ _ _ _ first
      cases rest with
      | nil => cases ending <;> simp_all [Ending.ofHolder, flawed, WholeMembers, Token.Sound]
      | cons member rest => cases ending <;> simp [Ending.ofHolder, flawed] at closed
    · contradiction
  · contradiction

/-- A value is read from a whole document only, also where an object holds its text. -/
theorem whole_of_valueOf (embedded : String → Except ReadFault Json) (document : Document)
    (room : Nat) (value : Json) (found : valueOf embedded document room = .ok value) :
    document.Whole := by
  revert value
  apply @valueOf.induct embedded
    (fun document room => ∀ value, valueOf embedded document room = .ok value → document.Whole)
    (fun members room => ∀ entries, entriesOf embedded members room = .ok entries →
      WholeMembers members)
    (fun items room => ∀ values, valuesOf embedded items room = .ok values → WholeItems items)
  case case6 =>
    intro items ending room inner value found
    rw [valueOf] at found
    obtain ⟨values, each, found⟩ := bind_eq_ok.mp found
    obtain ⟨_, closed, _⟩ := bind_eq_ok.mp found
    exact ⟨inner values each, ofList_eq_ok_iff.mp closed⟩
  case case8 =>
    intro members ending room result held value found
    simp only [valueOf, held] at found
    rw [found] at held
    exact whole_of_held? held
  case case9 =>
    intro members ending room plain inner value found
    simp only [valueOf, plain] at found
    obtain ⟨entries, each, found⟩ := bind_eq_ok.mp found
    obtain ⟨_, closed, _⟩ := bind_eq_ok.mp found
    exact ⟨inner entries each, ofObject_eq_ok_iff.mp closed⟩
  case case11 =>
    intro members other room result held value found
    simp only [valueOf, held] at found
    rw [found] at held
    have closed := (whole_of_held? held).2
    contradiction
  case case12 =>
    intro members other room plain _ value found
    simp only [valueOf, plain] at found
    obtain ⟨_, _, found⟩ := bind_eq_ok.mp found
    contradiction
  case case15 =>
    intro item rest room first others values found
    rw [valuesOf] at found
    obtain ⟨value, one, found⟩ := bind_eq_ok.mp found
    obtain ⟨tail, more, _⟩ := bind_eq_ok.mp found
    exact ⟨first value one, others tail more⟩
  case case17 =>
    intro key item rest room first others entries found
    rw [entriesOf] at found
    obtain ⟨name, named, found⟩ := bind_eq_ok.mp found
    obtain ⟨value, one, found⟩ := bind_eq_ok.mp found
    obtain ⟨tail, more, _⟩ := bind_eq_ok.mp found
    obtain rfl := flawed_key_eq_ok_iff.mp named
    exact ⟨trivial, first value one, others tail more⟩
  all_goals
    intros
    simp_all [valueOf, Whole, WholeItems, WholeMembers, Token.Sound]

theorem demanding_value : Demanding value := fun room document value found =>
  whole_of_valueOf embeddedValue document room value found

end Containers

end Reader

namespace Form

variable {types : List Type} {room : Nat}

/-- The readers of all fields are demanding. -/
def Demanding : {types : List Type} → Form types → Prop
  | _, .done => True
  | _, .field _ read _ rest => Reader.Demanding read ∧ Demanding rest

theorem whole_of_fill? {form : Form types} (demanding : form.Demanding) {slots filled : Slots types}
    {key : String} {document : Document}
    (found : form.fill? room key document slots = some (.ok filled)) : document.Whole := by
  induction form with
  | done => contradiction
  | field name read omission rest inductionHypothesis =>
      obtain ⟨slot, slots⟩ := slots
      simp only [fill?] at found
      split at found
      · cases slot with
        | some value => cases found
        | none =>
            obtain ⟨value, one, _⟩ := map_eq_ok.mp (Option.some.inj found)
            exact demanding.1 room document value one
      · obtain ⟨result, later, found⟩ := Option.map_eq_some_iff.mp found
        obtain ⟨taken, rfl, _⟩ := map_eq_ok.mp found
        exact inductionHypothesis demanding.2 later

theorem whole_of_take {form : Form types} (demanding : form.Demanding) {slots taken : Slots types}
    {member : Quoted × Document} (found : form.take room slots member = .ok taken) :
    Token.Sound (.text member.1) ∧ member.2.Whole := by
  rw [take] at found
  split at found
  · contradiction
  · rename_i name named
    have sound : Token.Sound (.text member.1) := by
      rw [Reader.flawed_key_eq_ok_iff.mp (congrArg Reader.flawed named)]
      trivial
    refine ⟨sound, ?_⟩
    split at found
    · rename_i filled same
      rw [found] at same
      exact whole_of_fill? demanding same
    · obtain ⟨_, skipped, _⟩ := map_eq_ok.mp found
      refine (skip_eq_ok_iff member.2).mp ?_
      cases result : member.2.skip with
      | ok _ => rfl
      | error flaw => simp [result, Reader.flawed] at skipped

theorem wholeMembers_of_takeAll {form : Form types} (demanding : form.Demanding)
    {slots taken : Slots types} {members : List (Quoted × Document)}
    (found : form.takeAll room members slots = .ok taken) : WholeMembers members := by
  induction members generalizing slots with
  | nil => trivial
  | cons member rest inductionHypothesis =>
      rw [takeAll] at found
      split at found
      · contradiction
      · rename_i next one
        obtain ⟨sound, whole⟩ := whole_of_take demanding one
        exact ⟨sound, whole, inductionHypothesis found⟩

theorem whole_of_readItems {form : Form types} (demanding : form.Demanding) {title : String}
    {total : Nat} {items : List Document} {ending : Ending} {values : Values types}
    (found : readItems title room total form items ending = .ok values) :
    WholeItems items ∧ ending = .closed := by
  induction form generalizing items with
  | done =>
      cases items with
      | nil =>
          obtain ⟨_, closed, _⟩ := map_eq_ok.mp found
          exact ⟨trivial, Reader.ofRecord_eq_ok_iff.mp closed⟩
      | cons item items => contradiction
  | field name read omission rest inductionHypothesis =>
      cases items with
      | cons item items =>
          rw [readItems] at found
          split at found
          · contradiction
          · rename_i value one
            obtain ⟨tail, more, _⟩ := map_eq_ok.mp found
            obtain ⟨whole, closed⟩ := inductionHypothesis demanding.2 more
            exact ⟨⟨demanding.1 room item value one, whole⟩, closed⟩
      | nil =>
          refine ⟨trivial, ?_⟩
          cases ended : ending.ofList with
          | error flaw => simp [readItems, ended] at found
          | ok _ => exact Reader.ofList_eq_ok_iff.mp (congrArg Reader.flawed ended)

/-- A record is read from a whole document only, also where members are skipped. -/
theorem Demanding.reader {form : Form types} (demanding : form.Demanding) (title : String) :
    Reader.Demanding (form.reader title) := by
  intro room document value found
  unfold Form.reader at found
  split at found
  · obtain ⟨left, rfl, found⟩ := Reader.enter_eq_ok.mp found
    obtain ⟨slots, taken, found⟩ := bind_eq_ok.mp found
    obtain ⟨_, closed, _⟩ := bind_eq_ok.mp found
    exact ⟨wholeMembers_of_takeAll demanding taken, Reader.ofObject_eq_ok_iff.mp closed⟩
  · obtain ⟨left, rfl, found⟩ := Reader.enter_eq_ok.mp found
    obtain ⟨slots, taken, found⟩ := bind_eq_ok.mp found
    contradiction
  · obtain ⟨left, rfl, found⟩ := Reader.enter_eq_ok.mp found
    exact whole_of_readItems demanding found
  · contradiction

end Form

namespace Reader

variable {A : Type} {read : Reader A} {text : String} {document : Document}

/-- A text that spells a document is read as it. -/
theorem run_of_spells (spells : document.Spells text) :
    run read text = read greatestDepth document :=
  run_of_document (spells_iff.mp spells).2

/-- A text that was read spells a document. -/
theorem spells_of_run (demanding : Demanding read) {value : A} (found : run read text = .ok value) :
    ∃ document : Document, document.Spells text ∧ read greatestDepth document = .ok value := by
  have first := read_of_run found
  refine ⟨(Document.ofText text).1, spells_iff.mpr ⟨demanding _ _ _ first, ?_⟩, first⟩
  rw [run] at found
  simp only [first] at found
  split at found
  · contradiction
  · rename_i done
    exact Prod.ext rfl (Bool.eq_false_iff.mpr done)

end Reader

end Playback.Json
