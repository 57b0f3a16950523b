import Playback.Json.Form
import Playback.Proofs.Json.Readers

namespace Playback.Json.Form

def names : {types : List Type} → Form types → List String
  | _, .done => []
  | _, .field name _ _ rest => name :: rest.names

/-- The members give the fields their values in order, and fields without a member are filled. -/
inductive Writes (room : Nat) : {types : List Type} → Form types → List (String × Json) →
    Values types → Prop where
  | done : Writes room .done [] ()
  | given {A : Type} {types : List Type} {name : String} {read : Reader A} {omission : Omission A}
      {rest : Form types} {json : Json} {members : List (String × Json)} {value : A}
      {values : Values types} (first : read room json.document = .ok value)
      (others : Writes room rest members values) :
      Writes room (.field name read omission rest) ((name, json) :: members) (value, values)
  | omitted {A : Type} {types : List Type} {name : String} {read : Reader A} {rest : Form types}
      {members : List (String × Json)} {value : A} {values : Values types}
      (others : Writes room rest members values) :
      Writes room (.field name read (.filled value) rest) members (value, values)

section Writing

variable {types : List Type} {room : Nat}

theorem Writes.names {form : Form types} {members : List (String × Json)} {values : Values types}
    (writes : Writes room form members values) : ∀ member ∈ members, member.1 ∈ form.names := by
  induction writes with
  | done => exact nofun
  | given _ _ inductionHypothesis =>
      exact List.forall_mem_cons.mpr ⟨List.mem_cons_self, fun member known =>
        List.mem_cons_of_mem _ (inductionHypothesis member known)⟩
  | omitted _ inductionHypothesis =>
      exact fun member known => List.mem_cons_of_mem _ (inductionHypothesis member known)

/-- A member of another name leaves the first slot alone. -/
theorem takeAll_field {A : Type} {name : String} {read : Reader A} {omission : Omission A}
    {rest : Form types} {members : List (String × Json)} (slot : Option A) (slots : Slots types)
    (other : ∀ member ∈ members, member.1 ≠ name) :
    (field name read omission rest).takeAll room (documentsOfMembers members) (slot, slots) =
      (rest.takeAll room (documentsOfMembers members) slots).map fun slots => (slot, slots) := by
  induction members generalizing slots with
  | nil => rfl
  | cons member members inductionHypothesis =>
      obtain ⟨differs, others⟩ := List.forall_mem_cons.mp other
      have one : (field name read omission rest).take room (slot, slots)
          (.plain member.1, member.2.document) =
          (rest.take room slots (.plain member.1, member.2.document)).map
            fun slots => (slot, slots) := by
        simp only [take, Document.key, fill?, if_neg differs]
        cases rest.fill? room member.1 member.2.document slots with
        | some filled => rfl
        | none => cases Reader.flawed member.2.document.skip <;> rfl
      rw [documentsOfMembers, takeAll, takeAll, one]
      cases rest.take room slots (.plain member.1, member.2.document) with
      | error fault => rfl
      | ok taken => exact inductionHypothesis taken others

theorem takeAll_of_writes {form : Form types} {members : List (String × Json)}
    {values : Values types} (distinct : form.names.Nodup) (writes : Writes room form members values) :
    ∃ slots, form.takeAll room (documentsOfMembers members) form.blank = .ok slots ∧
      form.complete slots = .ok values := by
  induction writes with
  | done => exact ⟨(), rfl, rfl⟩
  | @given A types name read omission rest json members value values first others
      inductionHypothesis =>
      obtain ⟨new, distinct⟩ := List.nodup_cons.mp distinct
      obtain ⟨slots, taken, completed⟩ := inductionHypothesis distinct
      have later : ∀ member ∈ members, member.1 ≠ name := by
        rintro member known rfl
        exact new (others.names member known)
      refine ⟨(some value, slots), ?_, ?_⟩
      · rw [documentsOfMembers, takeAll, take]
        simp only [Document.key, fill?, blank, if_pos, first]
        change (field name read omission rest).takeAll room (documentsOfMembers members)
          (some value, rest.blank) = _
        rw [takeAll_field _ _ later, taken]
        rfl
      · rw [complete, completed]
        rfl
  | @omitted A types name read rest members value values others inductionHypothesis =>
      obtain ⟨new, distinct⟩ := List.nodup_cons.mp distinct
      obtain ⟨slots, taken, completed⟩ := inductionHypothesis distinct
      have later : ∀ member ∈ members, member.1 ≠ name := by
        rintro member known rfl
        exact new (others.names member known)
      refine ⟨(none, slots), ?_, ?_⟩
      · rw [blank, takeAll_field _ _ later, taken]
        rfl
      · rw [complete, completed]
        rfl

/-- A record is read back from the object that was written for it. -/
theorem reader_of_writes (form : Form types) {members : List (String × Json)} (title : String)
    (values : Values types) (distinct : form.names.Nodup)
    (writes : Writes room form members values) :
    form.reader title (room + 1) (Json.object members).document = .ok values := by
  obtain ⟨slots, taken, completed⟩ := takeAll_of_writes distinct writes
  rw [Json.document, reader, Reader.enter, taken]
  exact completed

section Members

variable {A : Type} {name : String} {read : Reader A} {rest : Form types} {write : A → Json}
  {members : List (String × Json)} {values : Values types}

/-- An optional field is read back from its value or from null. -/
theorem Writes.optional {omission : Omission (Option A)} {option : Option A}
    (present : ∀ value, (write value).document ≠ .null)
    (each : ∀ value ∈ option, read room (write value).document = .ok value)
    (others : Writes room rest members values) :
    Writes room (.field name (.optional read) omission rest)
      ((name, Json.optional write option) :: members) (option, values) := by
  cases option with
  | none => exact .given rfl others
  | some value => exact .given (Reader.optional_some (present value) (each value rfl)) others

/-- A field that is left out without a value is read back, perhaps with another value. -/
theorem Writes.givenMap {B : Type} {write : B → Json} {back : B → A} {option : Option B}
    (present : ∀ value, (write value).document ≠ .null)
    (each : ∀ value ∈ option, read room (write value).document = .ok (back value))
    (others : Writes room rest members values) :
    Writes room (.field name (.optional read) (.filled none) rest)
      (Json.given name write option ++ members) (option.map back, values) := by
  cases option with
  | none => exact .omitted others
  | some value => exact .given (Reader.optional_some (present value) (each value rfl)) others

/-- A field that is left out without a value is read back. -/
theorem Writes.givenOption {option : Option A} (present : ∀ value, (write value).document ≠ .null)
    (each : ∀ value ∈ option, read room (write value).document = .ok value)
    (others : Writes room rest members values) :
    Writes room (.field name (.optional read) (.filled none) rest)
      (Json.given name write option ++ members) (option, values) := by
  have mapped := @Writes.givenMap types room A name read rest members values A write id option
    present each others
  rwa [Option.map_id, id] at mapped

/-- A field that is left out with an empty list is read back. -/
theorem Writes.givenList {items : List A}
    (each : ∀ item ∈ items, read room (write item).document = .ok item)
    (others : Writes (room + 1) rest members values) :
    Writes (room + 1) (.field name (.list read) (.filled []) rest)
      (Json.givenList name write items ++ members) (items, values) := by
  cases items with
  | nil => exact .omitted others
  | cons item items => exact .given (Reader.list_listOf each) others

end Members

end Writing

section Reading

variable {types : List Type} {holds : Token → Prop} {room : Nat}

/-- Every field was read from a part of a document, or it stands for an omitted one. -/
def Each (holds : Token → Prop) (room : Nat) : {types : List Type} → Form types → Values types → Prop
  | _, .done, _ => True
  | _, .field _ read omission rest, (value, values) =>
      ((∃ part : Document, part.Holds holds ∧ read room part = .ok value) ∨
        omission = .filled value ∨ omission = .filledByName value) ∧ Each holds room rest values

/-- Every slot that is filled was read from a part of a document. -/
def Known (holds : Token → Prop) (room : Nat) : {types : List Type} → Form types → Slots types → Prop
  | _, .done, _ => True
  | _, .field _ read _ rest, (slot, slots) =>
      (∀ value, slot = some value → ∃ part : Document, part.Holds holds ∧
        read room part = .ok value) ∧ Known holds room rest slots

theorem known_blank (form : Form types) : form.Known holds room form.blank := by
  induction form with
  | done => trivial
  | field name read omission rest inductionHypothesis => exact ⟨nofun, inductionHypothesis⟩

theorem known_fill? {form : Form types} {slots filled : Slots types} {key : String}
    {document : Document} (lawful : document.Holds holds) (known : form.Known holds room slots)
    (found : form.fill? room key document slots = some (.ok filled)) :
    form.Known holds room filled := by
  induction form with
  | done => contradiction
  | field name read omission rest inductionHypothesis =>
      obtain ⟨slot, slots⟩ := slots
      obtain ⟨first, others⟩ := known
      simp only [fill?] at found
      split at found
      · cases slot with
        | some value => cases found
        | none =>
            obtain ⟨value, one, rfl⟩ := map_eq_ok.mp (Option.some.inj found)
            refine ⟨fun same equal => ?_, others⟩
            obtain rfl := Option.some.inj equal
            exact ⟨document, lawful, one⟩
      · obtain ⟨result, later, found⟩ := Option.map_eq_some_iff.mp found
        obtain ⟨taken, rfl, rfl⟩ := map_eq_ok.mp found
        exact ⟨first, inductionHypothesis others later⟩

theorem known_take {form : Form types} {slots taken : Slots types} {member : Quoted × Document}
    (lawful : member.2.Holds holds) (known : form.Known holds room slots)
    (found : form.take room slots member = .ok taken) : form.Known holds room taken := by
  rw [take] at found
  split at found
  · contradiction
  · split at found
    · rename_i filled same
      rw [found] at same
      exact known_fill? lawful known same
    · obtain ⟨_, _, rfl⟩ := map_eq_ok.mp found
      exact known

theorem known_takeAll {form : Form types} {slots taken : Slots types}
    {members : List (Quoted × Document)} (lawful : Document.HoldsMembers holds members)
    (known : form.Known holds room slots)
    (found : form.takeAll room members slots = .ok taken) : form.Known holds room taken := by
  induction members generalizing slots with
  | nil =>
      obtain rfl := Except.ok.inj found
      exact known
  | cons member rest inductionHypothesis =>
      obtain ⟨_, first, others⟩ := lawful
      rw [takeAll] at found
      split at found
      · contradiction
      · rename_i next one
        exact inductionHypothesis others (known_take first known one) found

theorem each_of_complete {form : Form types} {slots : Slots types} {values : Values types}
    (known : form.Known holds room slots) (found : form.complete slots = .ok values) :
    form.Each holds room values := by
  induction form with
  | done => trivial
  | field name read omission rest inductionHypothesis =>
      obtain ⟨slot, slots⟩ := slots
      obtain ⟨first, others⟩ := known
      cases slot with
      | some value =>
          obtain ⟨tail, more, rfl⟩ := map_eq_ok.mp found
          exact ⟨.inl (first value rfl), inductionHypothesis others more⟩
      | none =>
          cases omission with
          | refused => contradiction
          | filled value =>
              obtain ⟨tail, more, rfl⟩ := map_eq_ok.mp found
              exact ⟨.inr (.inl rfl), inductionHypothesis others more⟩
          | filledByName value =>
              obtain ⟨tail, more, rfl⟩ := map_eq_ok.mp found
              exact ⟨.inr (.inr rfl), inductionHypothesis others more⟩

theorem each_of_readItems {form : Form types} {title : String} {total : Nat}
    {items : List Document} {ending : Ending} {values : Values types}
    (lawful : Document.HoldsItems holds items)
    (found : readItems title room total form items ending = .ok values) :
    form.Each holds room values := by
  induction form generalizing items with
  | done => trivial
  | field name read omission rest inductionHypothesis =>
      cases items with
      | cons item items =>
          rw [readItems] at found
          split at found
          · contradiction
          · rename_i value one
            obtain ⟨tail, more, rfl⟩ := map_eq_ok.mp found
            exact ⟨.inl ⟨item, lawful.1, one⟩, inductionHypothesis lawful.2 more⟩
      | nil =>
          cases ended : ending.ofList with
          | error flaw => simp [readItems, ended] at found
          | ok _ =>
              cases omission with
              | refused => simp [readItems, ended] at found
              | filledByName value => simp [readItems, ended] at found
              | filled value =>
                  simp only [readItems, ended] at found
                  obtain ⟨tail, more, rfl⟩ := map_eq_ok.mp found
                  exact ⟨.inr (.inl rfl), inductionHypothesis lawful more⟩

/-- The fields of a record that was read are known one by one. -/
theorem each_of_reader {form : Form types} {title : String} {document : Document}
    {values : Values types} (lawful : document.Holds holds)
    (found : form.reader title room document = .ok values) :
    ∃ left, room = left + 1 ∧ form.Each holds left values := by
  unfold reader at found
  split at found
  · obtain ⟨left, rfl, found⟩ := Reader.enter_eq_ok.mp found
    obtain ⟨slots, taken, found⟩ := bind_eq_ok.mp found
    obtain ⟨_, _, found⟩ := bind_eq_ok.mp found
    exact ⟨left, rfl, each_of_complete (known_takeAll lawful (known_blank form) taken) found⟩
  · obtain ⟨left, rfl, found⟩ := Reader.enter_eq_ok.mp found
    obtain ⟨slots, taken, found⟩ := bind_eq_ok.mp found
    contradiction
  · obtain ⟨left, rfl, found⟩ := Reader.enter_eq_ok.mp found
    exact ⟨left, rfl, each_of_readItems lawful found⟩
  · contradiction

end Reading

end Playback.Json.Form
