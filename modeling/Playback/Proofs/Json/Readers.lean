import Playback.Json.Reader
import Playback.Proofs.Json.Documents
import Playback.Proofs.Json.Leaves

namespace Playback.Json

/-- A chain of results succeeds if each of them does. -/
theorem bind_eq_ok {E A B : Type} {first : Except E A} {next : A → Except E B} {result : B} :
    (first >>= next) = .ok result ↔ ∃ value, first = .ok value ∧ next value = .ok result := by
  cases first with
  | error fault => simp [bind, Except.bind]
  | ok value => simp [bind, Except.bind]

/-- A chain of results fails at the first of them that does. -/
theorem bind_eq_error {E A B : Type} {first : Except E A} {next : A → Except E B} {fault : E} :
    (first >>= next) = .error fault ↔
      first = .error fault ∨ ∃ value, first = .ok value ∧ next value = .error fault := by
  cases first with
  | error found => simp [bind, Except.bind]
  | ok value => simp [bind, Except.bind]

theorem eq_ok_of_toOption {E A : Type} {result : Except E A} {value : A}
    (same : result.toOption = some value) : result = .ok value := by
  cases result with
  | error => contradiction
  | ok => exact congrArg Except.ok (Option.some.inj same)

theorem mapError_eq_ok_iff {E F A : Type} {result : Except E A} {change : E → F} {value : A} :
    result.mapError change = .ok value ↔ result = .ok value := by
  cases result <;> simp [Except.mapError]

theorem map_eq_ok {E A B : Type} {first : Except E A} {change : A → B} {result : B} :
    first.map change = .ok result ↔ ∃ value, first = .ok value ∧ change value = result := by
  cases first with
  | error fault => simp [Except.map]
  | ok value => simp [Except.map]

theorem documentsOfItems_eq (items : List Json) : documentsOfItems items = items.map document := by
  induction items with
  | nil => rfl
  | cons item rest inductionHypothesis => rw [documentsOfItems, inductionHypothesis, List.map_cons]

theorem documentsOfMembers_eq (members : List (String × Json)) :
    documentsOfMembers members =
      members.map fun member => (.plain member.1, member.2.document) := by
  induction members with
  | nil => rfl
  | cons member rest inductionHypothesis =>
      rw [documentsOfMembers, inductionHypothesis, List.map_cons]

namespace Reader

variable {A B : Type} {read : Reader A} {room : Nat} {document : Document}

theorem enter_eq_ok {inner : Nat → Except ReadFault A} {value : A} :
    enter room inner = .ok value ↔ ∃ left, room = left + 1 ∧ inner left = .ok value := by
  cases room <;> simp [enter]

theorem map_ok {value : A} (change : A → B)
    (first : read room document = .ok value) :
    read.map change room document = .ok (change value) := by
  rw [map, first]
  rfl

theorem refine_ok {test : A → Except String B} {value : A} {result : B}
    (first : read room document = .ok value) (passed : test value = .ok result) :
    read.refine test room document = .ok result := by
  rw [refine, first]
  simp only [passed]

theorem optional_some {value : A} (given : document ≠ .null)
    (first : read room document = .ok value) :
    optional read room document = .ok (some value) := by
  rw [optional]
  · rw [first]
    rfl
  · exact given

theorem natural_ok {bound value : Nat} (room : Nat) (expected : String)
    (small : value < bound) (written : document = .number (.exact (.integer value))) :
    natural bound expected room document = .ok value := by
  rw [written, natural, if_pos (by omega)]
  rfl

theorem lt_of_natural {bound value : Nat} {expected : String}
    (read : natural bound expected room document = .ok value) : value < bound := by
  unfold natural at read
  split at read
  · split at read
    · obtain rfl := Except.ok.inj read
      omega
    · contradiction
  · contradiction

section Items

theorem items_map {write : B → Json} {back : B → A} {values : List B}
    (each : ∀ value ∈ values, read room (write value).document = .ok (back value)) :
    items read room ((values.map write).map Json.document) = .ok (values.map back) := by
  induction values with
  | nil => rfl
  | cons value rest inductionHypothesis =>
      obtain ⟨first, others⟩ := List.forall_mem_cons.mp each
      simp only [List.map_cons, items, first, inductionHypothesis others]
      rfl

/-- A list is read back item by item. -/
theorem list_map {write : B → Json} {back : B → A} {values : List B}
    (each : ∀ value ∈ values, read room (write value).document = .ok (back value)) :
    list read (room + 1) (listOf write values).document = .ok (values.map back) := by
  rw [listOf, Json.document, documentsOfItems_eq, list, enter, items_map each]
  rfl

theorem list_listOf {write : A → Json} {values : List A}
    (each : ∀ value ∈ values, read room (write value).document = .ok value) :
    list read (room + 1) (listOf write values).document = .ok values := by
  have mapped := list_map each
  rwa [List.map_id'] at mapped

theorem mem_items {holds : Token → Prop} {documents : List Document} {values : List A}
    (lawful : Document.HoldsItems holds documents)
    (found : items read room documents = .ok values) :
    ∀ value ∈ values, ∃ part : Document, part.Holds holds ∧ read room part = .ok value := by
  induction documents generalizing values with
  | nil =>
      obtain rfl := Except.ok.inj found
      exact nofun
  | cons document rest inductionHypothesis =>
      obtain ⟨itemLawful, restLawful⟩ := lawful
      rw [items] at found
      obtain ⟨first, one, found⟩ := bind_eq_ok.mp found
      obtain ⟨others, more, found⟩ := bind_eq_ok.mp found
      obtain rfl := Except.ok.inj found
      exact List.forall_mem_cons.mpr
        ⟨⟨document, itemLawful, one⟩, inductionHypothesis restLawful more⟩

/-- Every item of a list was read from a part of its document. -/
theorem mem_list {holds : Token → Prop} {values : List A} (lawful : document.Holds holds)
    (found : list read room document = .ok values) :
    ∃ left, room = left + 1 ∧
      ∀ value ∈ values, ∃ part : Document, part.Holds holds ∧ read left part = .ok value := by
  unfold list at found
  split at found
  · rename_i documents ending
    obtain ⟨left, rfl, found⟩ := enter_eq_ok.mp found
    obtain ⟨others, each, found⟩ := bind_eq_ok.mp found
    obtain ⟨_, _, found⟩ := bind_eq_ok.mp found
    obtain rfl := Except.ok.inj found
    exact ⟨left, rfl, mem_items lawful each⟩
  · contradiction

end Items

section Entries

theorem members_map {write : B → Json} {back : B → A} {entries : List (String × B)}
    (each : ∀ entry ∈ entries, read room (write entry.2).document = .ok (back entry.2)) :
    members read room ((entries.map fun entry => (entry.1, write entry.2)).map
        fun member => (.plain member.1, member.2.document)) =
      .ok (entries.map fun entry => (entry.1, back entry.2)) := by
  induction entries with
  | nil => rfl
  | cons entry rest inductionHypothesis =>
      obtain ⟨first, others⟩ := List.forall_mem_cons.mp each
      simp only [List.map_cons, members, Document.key, flawed, first, inductionHypothesis others]
      rfl

theorem mem_members {holds : Token → Prop} {documents : List (Quoted × Document)}
    {values : List (String × A)} (lawful : Document.HoldsMembers holds documents)
    (found : members read room documents = .ok values) :
    ∀ entry ∈ values, ∃ part : Document, part.Holds holds ∧ read room part = .ok entry.2 := by
  induction documents generalizing values with
  | nil =>
      obtain rfl := Except.ok.inj found
      exact nofun
  | cons member rest inductionHypothesis =>
      obtain ⟨_, itemLawful, restLawful⟩ := lawful
      rw [members] at found
      obtain ⟨name, _, found⟩ := bind_eq_ok.mp found
      obtain ⟨first, one, found⟩ := bind_eq_ok.mp found
      obtain ⟨others, more, found⟩ := bind_eq_ok.mp found
      obtain rfl := Except.ok.inj found
      exact List.forall_mem_cons.mpr
        ⟨⟨member.2, itemLawful, one⟩, inductionHypothesis restLawful more⟩

/-- Every entry of an object was read from a part of its document. -/
theorem mem_entries {holds : Token → Prop} {values : List (String × A)}
    (lawful : document.Holds holds) (found : entries read room document = .ok values) :
    ∃ left, room = left + 1 ∧
      ∀ entry ∈ values, ∃ part : Document, part.Holds holds ∧ read left part = .ok entry.2 := by
  unfold entries at found
  split at found
  · rename_i documents ending
    obtain ⟨left, rfl, found⟩ := enter_eq_ok.mp found
    obtain ⟨others, each, found⟩ := bind_eq_ok.mp found
    obtain ⟨_, _, found⟩ := bind_eq_ok.mp found
    obtain rfl := Except.ok.inj found
    exact ⟨left, rfl, mem_members lawful each⟩
  · obtain ⟨left, rfl, found⟩ := enter_eq_ok.mp found
    obtain ⟨others, each, found⟩ := bind_eq_ok.mp found
    contradiction
  · contradiction

end Entries

end Reader

end Playback.Json
