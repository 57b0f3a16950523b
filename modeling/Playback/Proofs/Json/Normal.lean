import Playback.Proofs.Json.Floats
import Playback.Proofs.Json.Members

namespace Playback.Json

theorem normalItems_eq (items : List Json) : normalItems items = items.map normal := by
  induction items with
  | nil => rfl
  | cons item rest inductionHypothesis => rw [normalItems, inductionHypothesis, List.map_cons]

theorem normalMembers_eq (members : List (String × Json)) :
    normalMembers members = members.map fun member => (member.1, member.2.normal) := by
  induction members with
  | nil => rfl
  | cons member rest inductionHypothesis =>
      rw [normalMembers, inductionHypothesis, List.map_cons]

theorem normalMembers_append (front back : List (String × Json)) :
    normalMembers (front ++ back) = normalMembers front ++ normalMembers back := by
  rw [normalMembers_eq, normalMembers_eq, normalMembers_eq, List.map_append]

section Writing

variable {A : Type} (write : A → Json)

theorem normal_listOf (items : List A) :
    (listOf write items).normal = listOf (fun item => (write item).normal) items := by
  rw [listOf, normal, normalItems_eq, List.map_map]
  rfl

theorem normalMembers_given (name : String) (option : Option A) :
    normalMembers (given name write option) =
      given name (fun value => (write value).normal) option := by
  cases option <;> rfl

theorem normalMembers_givenList (name : String) (items : List A) :
    normalMembers (givenList name write items) =
      givenList name (fun item => (write item).normal) items := by
  cases items with
  | nil => rfl
  | cons item items => exact congrArg (fun list => [(name, list)]) (normal_listOf write (item :: items))

end Writing

/-- A single becomes a double of its value, whose text is a number like that of any other double. -/
theorem clear_normalNumber {number : Number} (fitting : number.Fitting) :
    AllNumbers Number.Clear (normalNumber number) := by
  cases number with
  | integer value =>
      have lawful : (Number.integer value).Lawful := fitting
      exact allNumbers_number.mpr lawful.clear
  | double value =>
      rw [normalNumber]
      split
      · exact allNumbers_number.mpr (Number.clear_double fitting)
      · exact allNumbers_null
  | single value =>
      rw [normalNumber]
      split
      · generalize widened : value.convert .double = double
        have lawful : double.magnitude.Lawful .double :=
          Magnitude.lawful_convert (congrArg Binary.magnitude widened) (by decide)
        exact allNumbers_number.mpr (Number.clear_double lawful)
      · exact allNumbers_null

mutual

/-- Sorting and widening leave numbers that are told in one token each. -/
theorem clear_normal (value : Json) (fitting : ∀ number ∈ value.numbers, number.Fitting) :
    AllNumbers Number.Clear value.normal := by
  match value with
  | .null | .boolean _ | .text _ => exact nofun
  | .number value => exact clear_normalNumber (fitting value List.mem_cons_self)
  | .list items => exact allNumbers_list.mpr (clear_normalItems items fitting)
  | .object members =>
      exact allNumbers_object.mpr fun member known =>
        clear_normalMembers members fitting member (mem_of_mem_sortMembers known)

theorem clear_normalItems (items : List Json)
    (fitting : ∀ number ∈ numbersOfItems items, number.Fitting) :
    ∀ item ∈ normalItems items, AllNumbers Number.Clear item := by
  match items with
  | [] => exact nofun
  | item :: rest =>
      obtain ⟨first, others⟩ := List.forall_mem_append.mp fitting
      exact List.forall_mem_cons.mpr ⟨clear_normal item first, clear_normalItems rest others⟩

theorem clear_normalMembers (members : List (String × Json))
    (fitting : ∀ number ∈ numbersOfMembers members, number.Fitting) :
    ∀ member ∈ normalMembers members, AllNumbers Number.Clear member.2 := by
  match members with
  | [] => exact nofun
  | (_, value) :: rest =>
      obtain ⟨first, others⟩ := List.forall_mem_append.mp fitting
      exact List.forall_mem_cons.mpr ⟨clear_normal value first, clear_normalMembers rest others⟩

end

namespace Reader

variable {A B : Type} {read : Reader A}

/-- What is read of a value is also read of its normal form. -/
def Sorts (read : Reader A) (value : Json) : Prop :=
  ∀ room result, read room value.document = .ok result →
    read room value.normal.document = .ok result

@[simp] theorem sorts_null : read.Sorts .null := fun _ _ found => found

@[simp] theorem sorts_text (value : String) : read.Sorts (.text value) := fun _ _ found => found

@[simp] theorem sorts_boolean (value : Bool) : read.Sorts (.boolean value) := fun _ _ found => found

@[simp] theorem sorts_natural (value : Nat) : read.Sorts (Json.natural value) := fun _ _ found => found

@[simp] theorem sorts_word (value : UInt64) : read.Sorts (Json.word value) := fun _ _ found => found

@[simp] theorem sorts_optional {write : B → Json} {option : Option B}
    (each : ∀ value ∈ option, read.Sorts (write value)) : read.Sorts (Json.optional write option) := by
  cases option with
  | none => exact sorts_null
  | some value => exact each value rfl

theorem Sorts.map {value : Json} (sorts : read.Sorts value) (change : A → B) :
    (read.map change).Sorts value := by
  intro room result found
  obtain ⟨inner, first, rfl⟩ := map_eq_ok.mp found
  exact map_ok change (sorts room inner first)

/-- An object is not null, and neither is its normal form. -/
theorem Sorts.optional {members : List (String × Json)} (sorts : read.Sorts (.object members)) :
    (Reader.optional read).Sorts (.object members) := by
  intro room result found
  obtain ⟨inner, first, rfl⟩ := map_eq_ok.mp found
  exact optional_some nofun (sorts room inner first)

theorem sorts_items {values : List Json} (each : ∀ value ∈ values, read.Sorts value) {room : Nat}
    {results : List A} (found : items read room (documentsOfItems values) = .ok results) :
    items read room (documentsOfItems (normalItems values)) = .ok results := by
  induction values generalizing results with
  | nil => exact found
  | cons value values inductionHypothesis =>
      obtain ⟨first, others⟩ := List.forall_mem_cons.mp each
      rw [documentsOfItems, items] at found
      obtain ⟨result, one, found⟩ := bind_eq_ok.mp found
      obtain ⟨rest, more, found⟩ := bind_eq_ok.mp found
      rw [normalItems, documentsOfItems, items, first room result one,
        inductionHypothesis others more]
      exact found

theorem sorts_list {values : List Json} (each : ∀ value ∈ values, read.Sorts value) :
    (Reader.list read).Sorts (.list values) := by
  intro room results found
  obtain ⟨left, rfl, found⟩ := enter_eq_ok.mp found
  obtain ⟨inner, one, found⟩ := bind_eq_ok.mp found
  rw [normal, document, Reader.list, enter, sorts_items each one]
  exact found

@[simp] theorem sorts_listOf {write : B → Json} {values : List B}
    (each : ∀ value ∈ values, read.Sorts (write value)) :
    (Reader.list read).Sorts (listOf write values) :=
  sorts_list (List.forall_mem_map.mpr each)

end Reader

namespace Form

variable {types : List Type} {form : Form types} {room : Nat}

/-- The field of a name reads the same of the normal form of a value. -/
def SortsAt (name : String) (value : Json) : {types : List Type} → Form types → Prop
  | _, .done => False
  | _, .field other read _ rest =>
      if name = other then read.Sorts value else SortsAt name value rest

theorem SortsAt.mem_names {name : String} {value : Json} (sorts : form.SortsAt name value) :
    name ∈ form.names := by
  induction form with
  | done => exact sorts.elim
  | field other read omission rest inductionHypothesis =>
      rw [SortsAt] at sorts
      split at sorts
      · rename_i same
        exact same ▸ List.mem_cons_self
      · exact List.mem_cons_of_mem _ (inductionHypothesis sorts)

theorem SortsAt.fill? {name : String} {value : Json} {slots filled : Slots types}
    (sorts : form.SortsAt name value)
    (found : form.fill? room name value.document slots = some (.ok filled)) :
    form.fill? room name value.normal.document slots = some (.ok filled) := by
  induction form with
  | done => contradiction
  | field own read omission rest inductionHypothesis =>
      obtain ⟨slot, slots⟩ := slots
      rw [SortsAt] at sorts
      rcases fill?_field_iff.mp found with
        ⟨rfl, rfl, result, one, rfl⟩ | ⟨apart, others, later, rfl⟩
      · rw [if_pos rfl] at sorts
        exact fill?_field_iff.mpr (.inl ⟨rfl, rfl, result, sorts room result one, rfl⟩)
      · rw [if_neg apart] at sorts
        exact fill?_field_iff.mpr (.inr ⟨apart, others, inductionHypothesis sorts later, rfl⟩)

theorem takeAll_normalMembers {members : List (String × Json)} {slots taken : Slots types}
    (each : ∀ member ∈ members, form.SortsAt member.1 member.2)
    (found : form.takeAll room (documentsOfMembers members) slots = .ok taken) :
    form.takeAll room (documentsOfMembers (normalMembers members)) slots = .ok taken := by
  induction members generalizing slots with
  | nil => exact found
  | cons member members inductionHypothesis =>
      obtain ⟨first, others⟩ := List.forall_mem_cons.mp each
      obtain ⟨middle, one, rest⟩ := takeAll_cons_eq_ok_iff.mp found
      refine takeAll_cons_eq_ok_iff.mpr ⟨middle, ?_, inductionHypothesis others rest⟩
      obtain ⟨name, same, filled | ⟨foreign, _⟩⟩ := take_eq_ok_iff.mp one
      · obtain rfl := Quoted.plain.inj same
        exact take_eq_ok_iff.mpr ⟨_, rfl, .inl (first.fill? filled)⟩
      · obtain rfl := Quoted.plain.inj same
        exact absurd first.mem_names foreign

/-- Sorted members are taken like the members themselves. -/
theorem takeAll_sortMembers {members : List (String × Json)} {slots taken : Slots types}
    (known : ∀ member ∈ members, member.1 ∈ form.names)
    (found : form.takeAll room (documentsOfMembers members) slots = .ok taken) :
    form.takeAll room (documentsOfMembers (sortMembers members)) slots = .ok taken := by
  have order := (perm_sortMembers (nodup_of_takeAll known found)).symm.map
    fun member : String × Json => (Quoted.plain member.1, member.2.document)
  rw [← documentsOfMembers_eq, ← documentsOfMembers_eq] at order
  exact takeAll_of_perm order found

/-- A record is read from its sorted members like from its members. -/
theorem sorts (title : String) {members : List (String × Json)}
    (each : ∀ member ∈ members, form.SortsAt member.1 member.2) :
    (form.reader title).Sorts (.object members) := by
  intro room values found
  obtain ⟨left, rfl, found⟩ := Reader.enter_eq_ok.mp found
  obtain ⟨slots, taken, found⟩ := bind_eq_ok.mp found
  have known : ∀ member ∈ normalMembers members, member.1 ∈ form.names := by
    rw [normalMembers_eq]
    exact List.forall_mem_map.mpr fun member within => (each member within).mem_names
  rw [normal, document, reader, Reader.enter,
    takeAll_sortMembers known (takeAll_normalMembers each taken)]
  exact found

/-- A record is read back from the normal form of the object that was written for it. -/
theorem reader_normal (form : Form types) {members : List (String × Json)} (title : String)
    (values : Values types) (distinct : form.names.Nodup)
    (writes : Writes room form (normalMembers members) values) :
    form.reader title (room + 1) (Json.object members).normal.document = .ok values := by
  obtain ⟨slots, taken, completed⟩ := takeAll_of_writes distinct writes
  rw [normal, document, reader, Reader.enter, takeAll_sortMembers writes.names taken]
  exact completed

end Form

end Playback.Json
