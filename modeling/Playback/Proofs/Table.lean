import Mathlib.Data.List.Induction
import Playback.Table

namespace Playback.Table

variable {A : Type}

/-- The value in the last entry of a key. -/
def last? (key : String) (entries : List (String × A)) : Option A :=
  (entries.filter fun entry => entry.1 == key).getLast?.map Prod.snd

theorem last?_concat (key other : String) (value : A) (entries : List (String × A)) :
    last? other (entries ++ [(key, value)]) =
      if other = key then some value else last? other entries := by
  by_cases same : other = key
  · simp [last?, same]
  · simp [last?, same, Ne.symm same]

/-- The last value of a key stands in one of its entries. -/
theorem mem_of_last? {key : String} {value : A} {entries : List (String × A)}
    (last : last? key entries = some value) : (key, value) ∈ entries := by
  obtain ⟨entry, found, rfl⟩ := Option.map_eq_some_iff.mp last
  have member := List.mem_of_getLast? found
  obtain ⟨known, same⟩ := List.mem_filter.mp member
  rwa [← beq_iff_eq.mp same]

theorem last?_isSome_iff {key : String} {entries : List (String × A)} :
    (last? key entries).isSome = true ↔ key ∈ entries.map Prod.fst := by
  simp [last?]

theorem ofList_append (entries more : List (String × A)) :
    ofList (entries ++ more) =
      more.foldl (fun table entry => table.put entry.1 entry.2) (ofList entries) := by
  rw [ofList, ofList, List.foldl_append]

theorem ofList_concat (entries : List (String × A)) (key : String) (value : A) :
    ofList (entries ++ [(key, value)]) = (ofList entries).put key value :=
  ofList_append entries [(key, value)]

/-- A table of entries looks up the last value of a key. -/
theorem get?_ofList (key : String) (entries : List (String × A)) :
    (ofList entries).get? key = last? key entries := by
  induction entries using List.reverseRecOn with
  | nil => rfl
  | append_singleton entries entry inductionHypothesis =>
      rw [ofList_concat, get?_put, last?_concat, inductionHypothesis]

theorem mem_of_mem_putEntry {key : String} {value : A} {entry : String × A}
    {entries : List (String × A)} (member : entry ∈ putEntry key value entries) :
    entry = (key, value) ∨ entry ∈ entries := by
  induction entries with
  | nil => exact .inl (List.mem_singleton.mp member)
  | cons first rest inductionHypothesis =>
      rw [putEntry] at member
      split at member
      · exact (List.mem_cons.mp member).imp_right (List.mem_cons_of_mem first)
      · rcases List.mem_cons.mp member with rfl | later
        · exact .inr List.mem_cons_self
        · exact (inductionHypothesis later).imp_right (List.mem_cons_of_mem first)

/-- A table of entries holds nothing else. -/
theorem mem_of_mem_ofList {entry : String × A} {entries : List (String × A)}
    (member : entry ∈ (ofList entries).entries) : entry ∈ entries := by
  induction entries using List.reverseRecOn with
  | nil => exact member
  | append_singleton entries last inductionHypothesis =>
      rw [ofList_concat] at member
      rcases mem_of_mem_putEntry member with rfl | known
      · exact List.mem_append_right entries List.mem_cons_self
      · exact List.mem_append_left [last] (inductionHypothesis known)

/-- The keys of a table of entries stand in the order of their first entries. -/
theorem keys_ofList (entries : List (String × A)) :
    (ofList entries).keys = (entries.map Prod.fst).eraseDups := by
  induction entries using List.reverseRecOn with
  | nil => rfl
  | append_singleton entries entry inductionHypothesis =>
      rw [ofList_concat, keys_put, inductionHypothesis, List.map_append, List.eraseDups_append]
      by_cases known : entry.1 ∈ entries.map Prod.fst
      · simp [known, List.removeAll]
      · simp [known, List.removeAll, List.eraseDups_cons]

theorem putEntry_of_new {key : String} {value : A} {entries : List (String × A)}
    (new : key ∉ entries.map Prod.fst) : putEntry key value entries = entries ++ [(key, value)] := by
  induction entries with
  | nil => rfl
  | cons entry rest inductionHypothesis =>
      rw [List.map_cons] at new
      rw [putEntry, if_neg (List.ne_of_not_mem_cons new).symm,
        inductionHypothesis (List.not_mem_of_not_mem_cons new)]
      rfl

/-- A table is made of its own entries. -/
theorem ofList_entries (table : Table A) : ofList table.entries = table := by
  have same (entries : List (String × A)) (distinct : (entries.map Prod.fst).Nodup) :
      (ofList entries).entries = entries := by
    induction entries using List.reverseRecOn with
    | nil => rfl
    | append_singleton entries last inductionHypothesis =>
        rw [List.map_append, List.nodup_append] at distinct
        obtain ⟨front, _, apart⟩ := distinct
        have new : last.1 ∉ entries.map Prod.fst :=
          fun known => apart last.1 known last.1 List.mem_cons_self rfl
        rw [ofList_concat, put]
        simp only [inductionHypothesis front, putEntry_of_new new]
  have entries := same table.entries table.distinct
  cases table
  cases made : ofList _
  simp_all

theorem eq_of_entries {table other : Table A} (same : table.entries = other.entries) :
    table = other := by
  cases table
  cases other
  simp_all

theorem putEntry_putEntry (key : String) (old value : A) (entries : List (String × A)) :
    putEntry key value (putEntry key old entries) = putEntry key value entries := by
  induction entries with
  | nil => simp [putEntry]
  | cons entry rest inductionHypothesis =>
      by_cases same : entry.1 = key
      · simp [putEntry, same]
      · simp [putEntry, same, inductionHypothesis]

/-- A known key has its place, so it does not matter which of two keys is put first. -/
theorem putEntry_comm {key other : String} {entries : List (String × A)} (value more : A)
    (known : key ∈ entries.map Prod.fst) (apart : other ≠ key) :
    putEntry other more (putEntry key value entries) =
      putEntry key value (putEntry other more entries) := by
  induction entries with
  | nil => contradiction
  | cons entry rest inductionHypothesis =>
      by_cases same : entry.1 = key
      · simp [putEntry, same, apart.symm]
      · have later : key ∈ rest.map Prod.fst := by
          simpa [Ne.symm same] using known
        by_cases first : entry.1 = other
        · simp [putEntry, first, apart]
        · simp [putEntry, same, first, inductionHypothesis later]

theorem putEntry_of_mem {key : String} {value : A} {entries : List (String × A)}
    (distinct : (entries.map Prod.fst).Nodup) (member : (key, value) ∈ entries) :
    putEntry key value entries = entries := by
  induction entries with
  | nil => contradiction
  | cons entry rest inductionHypothesis =>
      obtain ⟨new, apart⟩ := List.nodup_cons.mp distinct
      rcases List.mem_cons.mp member with rfl | later
      · simp [putEntry]
      · have differ : entry.1 ≠ key := by
          rintro rfl
          exact new (List.mem_map.mpr ⟨_, later, rfl⟩)
        simp [putEntry, differ, inductionHypothesis apart later]

/-- Entries overwrite a table one after the other. Known keys keep their places. -/
def overwrite (table : Table A) (entries : List (String × A)) : Table A :=
  entries.foldl (fun table entry => table.put entry.1 entry.2) table

theorem overwrite_cons (table : Table A) (entry : String × A) (rest : List (String × A)) :
    table.overwrite (entry :: rest) = (table.put entry.1 entry.2).overwrite rest := rfl

theorem overwrite_concat (table : Table A) (entries : List (String × A)) (entry : String × A) :
    table.overwrite (entries ++ [entry]) = (table.overwrite entries).put entry.1 entry.2 := by
  rw [overwrite, List.foldl_append]
  rfl

/-- A known key may be put before the entries of other keys or after them. -/
theorem overwrite_put {table : Table A} {key : String} {entries : List (String × A)} (value : A)
    (known : key ∈ table.keys) (other : key ∉ entries.map Prod.fst) :
    (table.put key value).overwrite entries = (table.overwrite entries).put key value := by
  induction entries generalizing table with
  | nil => rfl
  | cons entry rest inductionHypothesis =>
      rw [List.map_cons] at other
      have apart : entry.1 ≠ key := (List.ne_of_not_mem_cons other).symm
      have swapped : (table.put key value).put entry.1 entry.2 =
          (table.put entry.1 entry.2).put key value :=
        eq_of_entries (putEntry_comm value entry.2 known apart)
      have still : key ∈ (table.put entry.1 entry.2).keys := mem_putEntry_keys.mpr (.inr known)
      rw [overwrite_cons, overwrite_cons, swapped,
        inductionHypothesis still (List.not_mem_of_not_mem_cons other)]

/-- A put into the entries that overwrite a table is a put after them. -/
theorem overwrite_putEntry (table : Table A) (key : String) (value : A)
    {entries : List (String × A)} (distinct : (entries.map Prod.fst).Nodup) :
    table.overwrite (putEntry key value entries) = (table.overwrite entries).put key value := by
  induction entries generalizing table with
  | nil => rfl
  | cons entry rest inductionHypothesis =>
      obtain ⟨new, apart⟩ := List.nodup_cons.mp distinct
      by_cases same : entry.1 = key
      · subst same
        have known : entry.1 ∈ (table.put entry.1 entry.2).keys :=
          mem_putEntry_keys.mpr (.inl rfl)
        have replaced : (table.put entry.1 entry.2).put entry.1 value = table.put entry.1 value :=
          eq_of_entries (putEntry_putEntry _ _ _ _)
        rw [putEntry, if_pos rfl, overwrite_cons, overwrite_cons, ← replaced,
          overwrite_put value known new]
      · rw [putEntry, if_neg same, overwrite_cons, overwrite_cons, inductionHypothesis _ apart]

/-- A table overwrites another one like the entries that it was made of. -/
theorem overwrite_ofList (table : Table A) (entries : List (String × A)) :
    table.overwrite (ofList entries).entries = table.overwrite entries := by
  induction entries using List.reverseRecOn with
  | nil => rfl
  | append_singleton entries entry inductionHypothesis =>
      rw [ofList_concat, overwrite_concat, ← inductionHypothesis]
      exact table.overwrite_putEntry entry.1 entry.2 (ofList entries).distinct

/-- Its own entries change nothing in a table. -/
theorem overwrite_of_subset {table : Table A} {entries : List (String × A)}
    (within : entries ⊆ table.entries) : table.overwrite entries = table := by
  induction entries with
  | nil => rfl
  | cons entry rest inductionHypothesis =>
      obtain ⟨member, later⟩ := List.cons_subset.mp within
      have same : table.put entry.1 entry.2 = table :=
        eq_of_entries (putEntry_of_mem table.distinct member)
      rw [overwrite_cons, same, inductionHypothesis later]

/-- Entries that come twice make the table that they make once. -/
theorem ofList_append_self (entries : List (String × A)) :
    ofList (entries ++ entries) = ofList entries := by
  have again : (ofList entries).overwrite (ofList entries).entries = ofList entries :=
    overwrite_of_subset (List.Subset.refl _)
  rw [overwrite_ofList] at again
  rw [ofList_append]
  exact again

/-- The new keys go to the end, in their own order. -/
theorem keys_overwrite (table : Table A) {entries : List (String × A)}
    (distinct : (entries.map Prod.fst).Nodup) :
    (table.overwrite entries).keys =
      table.keys ++ (entries.map Prod.fst).filter (· ∉ table.keys) := by
  induction entries generalizing table with
  | nil => exact (List.append_nil _).symm
  | cons entry rest inductionHypothesis =>
      obtain ⟨new, apart⟩ := List.nodup_cons.mp distinct
      rw [overwrite_cons, inductionHypothesis _ apart, keys_put, List.map_cons]
      by_cases known : entry.1 ∈ table.keys
      · simp [known]
      · have same : (rest.map Prod.fst).filter (· ∉ table.keys ++ [entry.1]) =
            (rest.map Prod.fst).filter (· ∉ table.keys) := by
          refine List.filter_congr fun key member => ?_
          have differ : key ≠ entry.1 := fun same => new (same ▸ member)
          simp [differ]
        rw [if_neg known, same]
        simp [known]

/-- The values of a table change, and its keys stay. -/
def map {B : Type} (change : A → B) (table : Table A) : Table B :=
  ⟨table.entries.map fun entry => (entry.1, change entry.2), by
    rw [List.map_map]
    exact table.distinct⟩

theorem map_of_same {change : A → A} {table : Table A}
    (same : ∀ entry ∈ table.entries, change entry.2 = entry.2) : table.map change = table := by
  have entries : (table.map change).entries = table.entries := by
    conv => rhs; rw [← List.map_id table.entries]
    exact List.map_congr_left fun entry member => Prod.ext rfl (same entry member)
  cases table
  cases made : map change _
  simp_all

end Playback.Table
