import Playback.Proofs.Json.Extension

namespace Playback.Json.Form

variable {types : List Type} {form : Form types} {room : Nat} {key : String} {document : Document}

/-- The slot of a name holds the value that is read from a document. -/
def HoldsAt (room : Nat) (key : String) (document : Document) :
    {types : List Type} → Form types → Slots types → Prop
  | _, .done, _ => False
  | _, .field name read _ rest, (slot, slots) =>
      if key = name then ∃ value, slot = some value ∧ read room document = .ok value
      else HoldsAt room key document rest slots

/-- The field of a name has the value that is read from a document. -/
def ReadsAt (room : Nat) (key : String) (document : Document) :
    {types : List Type} → Form types → Values types → Prop
  | _, .done, _ => False
  | _, .field name read _ rest, (value, values) =>
      if key = name then read room document = .ok value
      else ReadsAt room key document rest values

section Slots

variable {slots filled taken : Slots types}

theorem holdsAt_of_fill? (found : form.fill? room key document slots = some (.ok filled)) :
    form.HoldsAt room key document filled := by
  induction form with
  | done => contradiction
  | field name read omission rest inductionHypothesis =>
      obtain ⟨slot, slots⟩ := slots
      rcases fill?_field_iff.mp found with
        ⟨rfl, _, value, read, rfl⟩ | ⟨apart, others, later, rfl⟩
      · rw [HoldsAt, if_pos rfl]
        exact ⟨value, rfl, read⟩
      · rw [HoldsAt, if_neg apart]
        exact inductionHypothesis later

/-- A slot is filled only once, so that what it holds stays there. -/
theorem HoldsAt.fill? {other : String} {part : Document}
    (holds : form.HoldsAt room key document slots)
    (found : form.fill? room other part slots = some (.ok filled)) :
    form.HoldsAt room key document filled := by
  induction form with
  | done => contradiction
  | field name read omission rest inductionHypothesis =>
      obtain ⟨slot, slots⟩ := slots
      rw [HoldsAt] at holds
      rcases fill?_field_iff.mp found with
        ⟨rfl, rfl, value, _, rfl⟩ | ⟨_, others, later, rfl⟩
      · split at holds
        · -- A second member of the name would have been refused.
          obtain ⟨_, full, _⟩ := holds
          contradiction
        · rename_i apart
          rwa [HoldsAt, if_neg apart]
      · rw [HoldsAt]
        split at holds
        · rename_i same
          rwa [if_pos same]
        · rename_i apart
          rw [if_neg apart]
          exact inductionHypothesis holds later

theorem HoldsAt.takeAll {members : List (Quoted × Document)}
    (holds : form.HoldsAt room key document slots)
    (found : form.takeAll room members slots = .ok taken) :
    form.HoldsAt room key document taken := by
  induction members generalizing slots with
  | nil =>
      obtain rfl := Except.ok.inj found
      exact holds
  | cons member rest inductionHypothesis =>
      obtain ⟨middle, one, others⟩ := takeAll_cons_eq_ok_iff.mp found
      obtain ⟨name, _, filled | ⟨_, _, rfl⟩⟩ := take_eq_ok_iff.mp one
      · exact inductionHypothesis (holds.fill? filled) others
      · exact inductionHypothesis holds others

/-- Every member of a known name is in its slot when all members are taken. -/
theorem holdsAt_of_takeAll {members : List (Quoted × Document)} (known : key ∈ form.names)
    (member : (.plain key, document) ∈ members)
    (found : form.takeAll room members slots = .ok taken) :
    form.HoldsAt room key document taken := by
  obtain ⟨front, back, rfl⟩ := List.append_of_mem member
  obtain ⟨early, _, found⟩ := takeAll_append_eq_ok_iff.mp found
  obtain ⟨late, one, found⟩ := takeAll_cons_eq_ok_iff.mp found
  obtain ⟨name, same, filled | ⟨foreign, _⟩⟩ := take_eq_ok_iff.mp one
  · obtain rfl := Quoted.plain.inj same
    exact (holdsAt_of_fill? filled).takeAll found
  · obtain rfl := Quoted.plain.inj same
    contradiction

theorem HoldsAt.mem_names (holds : form.HoldsAt room key document slots) : key ∈ form.names := by
  induction form with
  | done => exact holds.elim
  | field name read omission rest inductionHypothesis =>
      rw [HoldsAt] at holds
      split at holds
      · rename_i same
        exact same ▸ List.mem_cons_self
      · exact List.mem_cons_of_mem _ (inductionHypothesis holds)

/-- A slot that is filled takes no second member. -/
theorem HoldsAt.not_fill? {other : Document} (holds : form.HoldsAt room key document slots) :
    form.fill? room key other slots ≠ some (.ok filled) := by
  intro found
  induction form with
  | done => contradiction
  | field name read omission rest inductionHypothesis =>
      obtain ⟨slot, slots⟩ := slots
      rw [HoldsAt] at holds
      rcases fill?_field_iff.mp found with ⟨rfl, rfl, _⟩ | ⟨apart, others, later, rfl⟩
      · rw [if_pos rfl] at holds
        obtain ⟨_, full, _⟩ := holds
        contradiction
      · rw [if_neg apart] at holds
        exact inductionHypothesis holds later

theorem HoldsAt.not_mem {members : List (Quoted × Document)} {other : Document}
    (holds : form.HoldsAt room key document slots)
    (found : form.takeAll room members slots = .ok taken) : (.plain key, other) ∉ members := by
  intro member
  obtain ⟨front, back, rfl⟩ := List.append_of_mem member
  obtain ⟨early, first, found⟩ := takeAll_append_eq_ok_iff.mp found
  obtain ⟨late, one, _⟩ := takeAll_cons_eq_ok_iff.mp found
  have still := holds.takeAll first
  obtain ⟨name, same, filled | ⟨foreign, _⟩⟩ := take_eq_ok_iff.mp one
  · obtain rfl := Quoted.plain.inj same
    exact still.not_fill? filled
  · obtain rfl := Quoted.plain.inj same
    exact foreign still.mem_names

/-- Members of known names are taken only if their names are distinct. -/
theorem nodup_of_takeAll {members : List (String × Json)}
    (known : ∀ member ∈ members, member.1 ∈ form.names)
    (found : form.takeAll room (documentsOfMembers members) slots = .ok taken) :
    (members.map Prod.fst).Nodup := by
  induction members generalizing slots with
  | nil => exact List.nodup_nil
  | cons member members inductionHypothesis =>
      obtain ⟨first, others⟩ := List.forall_mem_cons.mp known
      obtain ⟨middle, one, rest⟩ := takeAll_cons_eq_ok_iff.mp found
      refine List.nodup_cons.mpr ⟨fun again => ?_, inductionHypothesis others rest⟩
      obtain ⟨entry, within, same⟩ := List.mem_map.mp again
      have held : form.HoldsAt room member.1 member.2.document middle :=
        holdsAt_of_takeAll first (List.mem_singleton_self _) (takeAll_cons_eq_ok_iff.mpr ⟨_, one, rfl⟩)
      have missing : (Quoted.plain member.1, entry.2.document) ∉ documentsOfMembers members :=
        held.not_mem rest
      rw [documentsOfMembers_eq, ← same] at missing
      exact missing (List.mem_map.mpr ⟨entry, within, rfl⟩)

/-- What a slot holds is the value of its field, whatever stands for an omitted one. -/
theorem of_complete_field {A : Type} {name : String} {read : Reader A} {omission : Omission A}
    {slot : Option A} {value : A} {values : Values types}
    (found : (field name read omission form).complete (slot, slots) = .ok (value, values)) :
    (∀ held, slot = some held → held = value) ∧ form.complete slots = .ok values := by
  cases slot with
  | some held =>
      obtain ⟨tail, more, same⟩ := map_eq_ok.mp found
      obtain ⟨rfl, rfl⟩ := Prod.mk.inj same
      exact ⟨fun other equal => (Option.some.inj equal).symm, more⟩
  | none =>
      cases omission with
      | refused => contradiction
      | filled default | filledByName default =>
          obtain ⟨tail, more, same⟩ := map_eq_ok.mp found
          obtain ⟨rfl, rfl⟩ := Prod.mk.inj same
          exact ⟨nofun, more⟩

theorem HoldsAt.complete {values : Values types} (holds : form.HoldsAt room key document slots)
    (found : form.complete slots = .ok values) : form.ReadsAt room key document values := by
  induction form with
  | done => contradiction
  | field name read omission rest inductionHypothesis =>
      obtain ⟨slot, slots⟩ := slots
      obtain ⟨value, values⟩ := values
      obtain ⟨first, others⟩ := of_complete_field found
      rw [HoldsAt] at holds
      rw [ReadsAt]
      split at holds
      · rename_i same
        obtain ⟨held, full, read⟩ := holds
        rwa [if_pos same, ← first held full]
      · rename_i apart
        rw [if_neg apart]
        exact inductionHypothesis holds others

end Slots

/-- In a record that was read from an object, the field of a name has the value that is read from
the member of that name. -/
theorem readsAt_of_reader {title : String} {members : List (Quoted × Document)} {ending : Ending}
    {values : Values types} (known : key ∈ form.names)
    (member : (.plain key, document) ∈ members)
    (found : form.reader title room (.object members ending) = .ok values) :
    ∃ left, room = left + 1 ∧ form.ReadsAt left key document values := by
  obtain ⟨left, rfl, found⟩ := Reader.enter_eq_ok.mp found
  obtain ⟨slots, taken, found⟩ := bind_eq_ok.mp found
  obtain ⟨_, _, found⟩ := bind_eq_ok.mp found
  exact ⟨left, rfl, (holdsAt_of_takeAll known member taken).complete found⟩

/-- A member that was written is read at the field of its name. -/
theorem readsAt_of_written {title : String} {members : List (String × Json)} {json : Json}
    {values : Values types} (known : key ∈ form.names) (member : (key, json) ∈ members)
    (found : form.reader title room (Json.object members).document = .ok values) :
    ∃ left, room = left + 1 ∧ form.ReadsAt left key json.document values := by
  rw [Json.document, documentsOfMembers_eq] at found
  exact readsAt_of_reader known (List.mem_map.mpr ⟨_, member, rfl⟩) found

end Playback.Json.Form
