/-
This file reads documents whose records have got more members, or the same ones in another order.
-/

import Playback.Proofs.Json.Acceptance

namespace Playback.Json

open Document

/-- What may become of a document. -/
abbrev Change := Document → Document → Prop

namespace Change

/-- The items of a list change one by one. -/
inductive Items (item : Change) : Change where
  | same (document : Document) : Items item document document
  | each {items others : List Document} {ending : Ending} (each : List.Forall₂ item items others) :
      Items item (.list items ending) (.list others ending)

/-- The values of an object change one by one, and each keeps its key and its place. -/
inductive Values (value : Change) : Change where
  | same (document : Document) : Values value document document
  | each {members others : List (Quoted × Document)} {ending : Ending}
      (each : List.Forall₂ (fun member other => member.1 = other.1 ∧ value member.2 other.2)
        members others) :
      Values value (.object members ending) (.object others ending)

/-- The value of a field stays, or it changes as the field of its name may change. -/
def Field (fields : List (String × Change)) (name : String) : Change := fun document other =>
  document = other ∨ ∃ change, (name, change) ∈ fields ∧ change document other

/-- The items of a list are fields with the given names. -/
inductive InOrder (fields : List (String × Change)) :
    List String → List Document → List Document → Prop where
  | done {names : List String} : InOrder fields names [] []
  | next {name : String} {names : List String} {item other : Document}
      {items others : List Document} (first : Field fields name item other)
      (rest : InOrder fields names items others) :
      InOrder fields (name :: names) (item :: items) (other :: others)

/-- An object that is read as a record with the given names gets new members of other names, and all
of its members may come in another order. A record that is written as a list keeps its items. -/
inductive Record (names : List String) (fields : List (String × Change)) : Change where
  | same (document : Document) : Record names fields document document
  | members {members moved added others : List (Quoted × Document)} {ending : Ending}
      (each : List.Forall₂ (fun member other => ∃ name, member.1 = .plain name ∧
        other.1 = .plain name ∧ Field fields name member.2 other.2) members moved)
      (foreign : ∀ member ∈ added, ∃ name, member.1 = .plain name ∧ name ∉ names)
      (order : others.Perm (moved ++ added)) :
      Record names fields (.object members ending) (.object others ending)
  | items {items others : List Document} {ending : Ending}
      (each : InOrder fields names items others) :
      Record names fields (.list items ending) (.list others ending)

/-- New members may stand anywhere between the old ones. -/
theorem Record.of_perm {names : List String} {fields : List (String × Change)}
    {members added others : List (Quoted × Document)} {ending : Ending}
    (plain : ∀ member ∈ members, ∃ name, member.1 = .plain name)
    (foreign : ∀ member ∈ added, ∃ name, member.1 = .plain name ∧ name ∉ names)
    (order : others.Perm (members ++ added)) :
    Record names fields (.object members ending) (.object others ending) := by
  refine .members (List.forall₂_same.mpr fun member known => ?_) foreign order
  obtain ⟨name, key⟩ := plain member known
  exact ⟨name, key, key, .inl rfl⟩

/-- What has become of a document is read like the document. -/
def Kept {A : Type} (change : Change) (read : Reader A) : Prop :=
  ∀ ⦃room document other value⦄, change document other → other.Whole →
    read room document = .ok value → read room other = .ok value

/-- Only null becomes null. -/
def Proper (change : Change) : Prop :=
  ∀ ⦃document other⦄, change document other → (document = .null ↔ other = .null)

section Combinators

variable {A B : Type} {change : Change} {read : Reader A} {room : Nat}

theorem Items.proper : (Items change).Proper := by
  rintro _ _ (_ | _) <;> simp

theorem Record.proper {names : List String} {fields : List (String × Change)} :
    (Record names fields).Proper := by
  rintro _ _ (_ | _ | _) <;> simp

theorem Kept.map (kept : change.Kept read) (convert : A → B) : change.Kept (read.map convert) := by
  intro room document other value changed whole found
  obtain ⟨inner, first, rfl⟩ := map_eq_ok.mp found
  exact Reader.map_ok convert (kept changed whole first)

theorem Kept.optional (kept : change.Kept read) (proper : change.Proper) :
    change.Kept (Reader.optional read) := by
  intro room document other value changed whole found
  by_cases null : document = .null
  · have same := (proper changed).mp null
    rwa [same, ← null]
  · have given : other ≠ .null := mt (proper changed).mpr null
    unfold Reader.optional at found
    split at found
    · contradiction
    · obtain ⟨inner, first, rfl⟩ := map_eq_ok.mp found
      exact Reader.optional_some given (kept changed whole first)

theorem kept_items (kept : change.Kept read) {documents others : List Document} {values : List A}
    (each : List.Forall₂ change documents others) (whole : WholeItems others)
    (found : Reader.items read room documents = .ok values) :
    Reader.items read room others = .ok values := by
  induction each generalizing values with
  | nil => exact found
  | cons first _ inductionHypothesis =>
      rw [Reader.items] at found ⊢
      obtain ⟨value, one, found⟩ := bind_eq_ok.mp found
      obtain ⟨rest, more, found⟩ := bind_eq_ok.mp found
      rw [kept first whole.1 one, inductionHypothesis whole.2 more]
      exact found

theorem Kept.list (kept : change.Kept read) : (Items change).Kept (Reader.list read) := by
  rintro room _ _ value (_ | each) whole found
  · exact found
  · obtain ⟨left, rfl, found⟩ := Reader.enter_eq_ok.mp found
    obtain ⟨values, one, found⟩ := bind_eq_ok.mp found
    rw [Reader.list, Reader.enter, kept_items kept each whole.1 one]
    exact found

theorem kept_members (kept : change.Kept read) {documents others : List (Quoted × Document)}
    {values : List (String × A)}
    (each : List.Forall₂ (fun member other => member.1 = other.1 ∧ change member.2 other.2)
      documents others) (whole : WholeMembers others)
    (found : Reader.members read room documents = .ok values) :
    Reader.members read room others = .ok values := by
  induction each generalizing values with
  | nil => exact found
  | @cons member other members others first _ inductionHypothesis =>
      obtain ⟨key, document⟩ := member
      obtain ⟨_, changed⟩ := other
      obtain ⟨rfl, change⟩ := first
      rw [Reader.members] at found ⊢
      obtain ⟨name, named, found⟩ := bind_eq_ok.mp found
      obtain ⟨value, one, found⟩ := bind_eq_ok.mp found
      obtain ⟨rest, more, found⟩ := bind_eq_ok.mp found
      rw [named, kept change whole.2.1 one, inductionHypothesis whole.2.2 more]
      exact found

theorem Kept.entries (kept : change.Kept read) : (Values change).Kept (Reader.entries read) := by
  rintro room _ _ value (_ | each) whole found
  · exact found
  · obtain ⟨left, rfl, found⟩ := Reader.enter_eq_ok.mp found
    obtain ⟨values, one, found⟩ := bind_eq_ok.mp found
    rw [Reader.entries, Reader.enter, kept_members kept each whole.1 one]
    exact found

end Combinators

end Change

namespace Form

section Order

variable {types : List Type} {form : Form types} {room : Nat} {slots middle taken : Slots types}

theorem fill?_eq_none_iff {key : String} {document : Document} :
    form.fill? room key document slots = none ↔ key ∉ form.names := by
  induction form with
  | done => simp [fill?, names]
  | field name read omission rest inductionHypothesis =>
      by_cases same : key = name
      · simp [fill?, names, same]
      · simp [fill?, names, same, inductionHypothesis]

/-- A first field takes a member of its name, and the others take the other members. -/
theorem fill?_field_iff {A : Type} {name key : String} {read : Reader A} {omission : Omission A}
    {slot : Option A} {filled : Slots (A :: types)} {document : Document} :
    (field name read omission form).fill? room key document (slot, slots) = some (.ok filled) ↔
      (key = name ∧ slot = none ∧ ∃ value, read room document = .ok value ∧
          filled = (some value, slots)) ∨
        key ≠ name ∧ ∃ others, form.fill? room key document slots = some (.ok others) ∧
          filled = (slot, others) := by
  by_cases same : key = name
  · cases slot <;> cases found : read room document <;>
      simp [fill?, same, found, Except.map, eq_comm]
  · cases found : form.fill? room key document slots with
    | none => simp [fill?, same, found]
    | some result => cases result <;> simp [fill?, same, found, Except.map, eq_comm]

/-- Two members fill their slots in any order. -/
theorem fill?_comm {first second : String} {document other : Document}
    (one : form.fill? room first document slots = some (.ok middle))
    (two : form.fill? room second other middle = some (.ok taken)) :
    ∃ between, form.fill? room second other slots = some (.ok between) ∧
      form.fill? room first document between = some (.ok taken) := by
  induction form with
  | done => contradiction
  | field name read omission rest inductionHypothesis =>
      obtain ⟨slot, slots⟩ := slots
      rcases fill?_field_iff.mp one with ⟨rfl, rfl, value, read, rfl⟩ | ⟨away, left, early, rfl⟩
      · rcases fill?_field_iff.mp two with ⟨_, full, _⟩ | ⟨apart, right, late, rfl⟩
        · contradiction
        · exact ⟨_, fill?_field_iff.mpr (.inr ⟨apart, right, late, rfl⟩),
            fill?_field_iff.mpr (.inl ⟨rfl, rfl, value, read, rfl⟩)⟩
      · rcases fill?_field_iff.mp two with ⟨rfl, rfl, value, read, rfl⟩ | ⟨apart, right, late, rfl⟩
        · exact ⟨_, fill?_field_iff.mpr (.inl ⟨rfl, rfl, value, read, rfl⟩),
            fill?_field_iff.mpr (.inr ⟨away, left, early, rfl⟩)⟩
        · obtain ⟨between, second, first⟩ := inductionHypothesis early late
          exact ⟨_, fill?_field_iff.mpr (.inr ⟨apart, between, second, rfl⟩),
            fill?_field_iff.mpr (.inr ⟨away, right, first, rfl⟩)⟩

/-- A member fills the slot of its name, or it has no such slot and is whole. -/
theorem take_eq_ok_iff {member : Quoted × Document} :
    form.take room slots member = .ok taken ↔ ∃ name, member.1 = .plain name ∧
      (form.fill? room name member.2 slots = some (.ok taken) ∨
        name ∉ form.names ∧ member.2.Whole ∧ taken = slots) := by
  obtain ⟨key, document⟩ := member
  cases key with
  | plain name =>
      have skipped : (Reader.flawed document.skip).map (fun _ => slots) = .ok taken ↔
          document.Whole ∧ taken = slots := by
        rw [← skip_eq_ok_iff document]
        cases document.skip <;> simp [Reader.flawed, Except.map, eq_comm]
      cases found : form.fill? room name document slots with
      | none =>
          have foreign : name ∉ form.names := fill?_eq_none_iff.mp found
          simp only [take, Document.key, found, skipped]
          simp [foreign, found]
      | some result =>
          have known : name ∈ form.names := by
            by_contra foreign
            rw [fill?_eq_none_iff.mpr foreign] at found
            contradiction
          simp [take, Document.key, found, known]
  | unpaired reading => simp [take, Document.key]
  | broken reading skipping => simp [take, Document.key]

/-- Two members are taken in any order. -/
theorem take_comm {first second : Quoted × Document}
    (one : form.take room slots first = .ok middle)
    (two : form.take room middle second = .ok taken) :
    ∃ between, form.take room slots second = .ok between ∧
      form.take room between first = .ok taken := by
  obtain ⟨left, leftKey, early⟩ := take_eq_ok_iff.mp one
  obtain ⟨right, rightKey, late⟩ := take_eq_ok_iff.mp two
  rcases early with filled | ⟨foreign, whole, rfl⟩
  · rcases late with refilled | ⟨apart, skipped, rfl⟩
    · obtain ⟨between, second, first⟩ := fill?_comm filled refilled
      exact ⟨between, take_eq_ok_iff.mpr ⟨right, rightKey, .inl second⟩,
        take_eq_ok_iff.mpr ⟨left, leftKey, .inl first⟩⟩
    · exact ⟨slots, take_eq_ok_iff.mpr ⟨right, rightKey, .inr ⟨apart, skipped, rfl⟩⟩, one⟩
  · exact ⟨taken, two, take_eq_ok_iff.mpr ⟨left, leftKey, .inr ⟨foreign, whole, rfl⟩⟩⟩

theorem takeAll_cons_eq_ok_iff {member : Quoted × Document} {rest : List (Quoted × Document)} :
    form.takeAll room (member :: rest) slots = .ok taken ↔
      ∃ middle, form.take room slots member = .ok middle ∧
        form.takeAll room rest middle = .ok taken := by
  rw [takeAll]
  cases form.take room slots member <;> simp

theorem takeAll_append_eq_ok_iff {front back : List (Quoted × Document)} :
    form.takeAll room (front ++ back) slots = .ok taken ↔
      ∃ middle, form.takeAll room front slots = .ok middle ∧
        form.takeAll room back middle = .ok taken := by
  induction front generalizing slots with
  | nil => simp [takeAll]
  | cons member rest inductionHypothesis =>
      simp only [List.cons_append, takeAll_cons_eq_ok_iff, inductionHypothesis]
      tauto

/-- The members of an object are taken in any order. -/
theorem takeAll_of_perm {members others : List (Quoted × Document)} (order : members.Perm others)
    (found : form.takeAll room members slots = .ok taken) :
    form.takeAll room others slots = .ok taken := by
  induction order generalizing slots with
  | nil => exact found
  | cons member _ inductionHypothesis =>
      obtain ⟨middle, one, rest⟩ := takeAll_cons_eq_ok_iff.mp found
      exact takeAll_cons_eq_ok_iff.mpr ⟨middle, one, inductionHypothesis rest⟩
  | swap first second rest =>
      obtain ⟨early, one, found⟩ := takeAll_cons_eq_ok_iff.mp found
      obtain ⟨late, two, found⟩ := takeAll_cons_eq_ok_iff.mp found
      obtain ⟨between, second, first⟩ := take_comm one two
      exact takeAll_cons_eq_ok_iff.mpr
        ⟨between, second, takeAll_cons_eq_ok_iff.mpr ⟨late, first, found⟩⟩
  | trans _ _ front back => exact back (front found)

/-- Members of other names are skipped, whatever their values. -/
theorem takeAll_of_foreign {added : List (Quoted × Document)}
    (foreign : ∀ member ∈ added, ∃ name, member.1 = .plain name ∧ name ∉ form.names)
    (whole : WholeMembers added) : form.takeAll room added slots = .ok slots := by
  induction added with
  | nil => rfl
  | cons member rest inductionHypothesis =>
      obtain ⟨⟨name, key, unknown⟩, others⟩ := List.forall_mem_cons.mp foreign
      exact takeAll_cons_eq_ok_iff.mpr ⟨slots,
        take_eq_ok_iff.mpr ⟨name, key, .inr ⟨unknown, whole.2.1, rfl⟩⟩,
        inductionHypothesis others whole.2.2⟩

end Order

section Fields

variable {types : List Type} {room : Nat} {change : Change} {fields : List (String × Change)}

/-- There is a field of the name, and its reader keeps the change. -/
def KeepsAt (name : String) (change : Change) : {types : List Type} → Form types → Prop
  | _, .done => False
  | _, .field other read _ rest =>
      if name = other then change.Kept read else KeepsAt name change rest

theorem KeepsAt.mem_names {name : String} {form : Form types} (keeps : form.KeepsAt name change) :
    name ∈ form.names := by
  induction form with
  | done => exact keeps.elim
  | field other read omission rest inductionHypothesis =>
      by_cases same : name = other
      · simp [names, same]
      · rw [KeepsAt, if_neg same] at keeps
        exact List.mem_cons_of_mem _ (inductionHypothesis keeps)

theorem KeepsAt.fill? {name : String} {form : Form types} (keeps : form.KeepsAt name change)
    {document other : Document} {slots filled : Slots types} (changed : change document other)
    (whole : other.Whole) (found : form.fill? room name document slots = some (.ok filled)) :
    form.fill? room name other slots = some (.ok filled) := by
  induction form with
  | done => contradiction
  | field own read omission rest inductionHypothesis =>
      obtain ⟨slot, slots⟩ := slots
      rcases fill?_field_iff.mp found with ⟨rfl, rfl, value, one, rfl⟩ | ⟨apart, others, later, rfl⟩
      · rw [KeepsAt, if_pos rfl] at keeps
        exact fill?_field_iff.mpr (.inl ⟨rfl, rfl, value, keeps changed whole one, rfl⟩)
      · rw [KeepsAt, if_neg apart] at keeps
        exact fill?_field_iff.mpr (.inr ⟨apart, others, inductionHypothesis keeps later, rfl⟩)

theorem take_of_changed {form : Form types}
    (keeps : ∀ entry ∈ fields, form.KeepsAt entry.1 entry.2) {slots taken : Slots types}
    {member other : Quoted × Document}
    (changed : ∃ name, member.1 = .plain name ∧ other.1 = .plain name ∧
      Change.Field fields name member.2 other.2) (whole : other.2.Whole)
    (found : form.take room slots member = .ok taken) : form.take room slots other = .ok taken := by
  obtain ⟨name, key, sameKey, field⟩ := changed
  obtain ⟨same, plain, result⟩ := take_eq_ok_iff.mp found
  obtain rfl := Quoted.plain.inj (key.symm.trans plain)
  refine take_eq_ok_iff.mpr ⟨name, sameKey, ?_⟩
  rcases field with same | ⟨change, known, changed⟩
  · rwa [same] at result
  · have keeps := keeps (name, change) known
    rcases result with filled | ⟨foreign, _, _⟩
    · exact .inl (keeps.fill? changed whole filled)
    · exact absurd keeps.mem_names foreign

theorem takeAll_of_changed {form : Form types}
    (keeps : ∀ entry ∈ fields, form.KeepsAt entry.1 entry.2)
    {members others : List (Quoted × Document)} {slots taken : Slots types}
    (each : List.Forall₂ (fun member other => ∃ name, member.1 = .plain name ∧
      other.1 = .plain name ∧ Change.Field fields name member.2 other.2) members others)
    (whole : WholeMembers others) (found : form.takeAll room members slots = .ok taken) :
    form.takeAll room others slots = .ok taken := by
  induction each generalizing slots with
  | nil => exact found
  | cons first _ inductionHypothesis =>
      obtain ⟨middle, one, rest⟩ := takeAll_cons_eq_ok_iff.mp found
      exact takeAll_cons_eq_ok_iff.mpr ⟨middle, take_of_changed keeps first whole.2.1 one,
        inductionHypothesis whole.2.2 rest⟩

theorem readItems_of_changed {form : Form types} (distinct : form.names.Nodup)
    (keeps : ∀ entry ∈ fields, entry.1 ∈ form.names → form.KeepsAt entry.1 entry.2)
    {title : String} {total : Nat} {items others : List Document} {ending : Ending}
    {values : Values types} (each : Change.InOrder fields form.names items others)
    (whole : WholeItems others)
    (found : readItems title room total form items ending = .ok values) :
    readItems title room total form others ending = .ok values := by
  induction form generalizing items others with
  | done =>
      cases each
      exact found
  | field name read omission rest inductionHypothesis =>
      cases each with
      | done => exact found
      | @next _ _ item other items others first each =>
          obtain ⟨new, distinct⟩ := List.nodup_cons.mp distinct
          have later : ∀ entry ∈ fields, entry.1 ∈ rest.names → rest.KeepsAt entry.1 entry.2 := by
            intro entry known member
            have apart : entry.1 ≠ name := fun same => new (same ▸ member)
            have keeps := keeps entry known (List.mem_cons_of_mem _ member)
            rwa [KeepsAt, if_neg apart] at keeps
          have kept {value} (one : read room item = .ok value) : read room other = .ok value := by
            rcases first with same | ⟨change, known, changed⟩
            · rwa [← same]
            · have keeps := keeps (name, change) known List.mem_cons_self
              rw [KeepsAt, if_pos rfl] at keeps
              exact keeps changed whole.1 one
          rw [readItems] at found ⊢
          cases one : read room item with
          | error fault => simp [one] at found
          | ok value =>
              simp only [one] at found
              obtain ⟨tail, more, rfl⟩ := map_eq_ok.mp found
              simp only [kept one]
              rw [inductionHypothesis distinct later each whole.2 more]
              rfl

/-- A record is read from an extension as it is from the object itself. -/
theorem kept_reader {form : Form types} (distinct : form.names.Nodup)
    (keeps : ∀ entry ∈ fields, form.KeepsAt entry.1 entry.2) (title : String) :
    (Change.Record form.names fields).Kept (form.reader title) := by
  rintro room _ _ value (_ | @⟨members, moved, added, others, ending, each, foreign, order⟩ |
    ⟨each⟩) whole found
  · exact found
  · obtain ⟨left, rfl, found⟩ := Reader.enter_eq_ok.mp found
    obtain ⟨slots, taken, found⟩ := bind_eq_ok.mp found
    have parts : WholeMembers (moved ++ added) :=
      wholeMembers_iff.mpr fun member known =>
        wholeMembers_iff.mp whole.1 member (order.mem_iff.mpr known)
    obtain ⟨wholeMoved, wholeAdded⟩ := wholeMembers_append.mp parts
    have moved := takeAll_of_changed keeps each wholeMoved taken
    have grown := takeAll_append_eq_ok_iff.mpr ⟨slots, moved, takeAll_of_foreign foreign wholeAdded⟩
    rw [reader, Reader.enter, takeAll_of_perm order.symm grown]
    exact found
  · obtain ⟨left, rfl, found⟩ := Reader.enter_eq_ok.mp found
    rw [reader, Reader.enter]
    exact readItems_of_changed distinct (fun entry known _ => keeps entry known) each whole.1 found

end Fields

end Form

end Playback.Json
