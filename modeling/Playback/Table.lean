namespace Playback

/-- The keys stand in the order in which they first came. -/
structure Table (A : Type) where
  entries : List (String × A)
  distinct : (entries.map Prod.fst).Nodup
deriving DecidableEq

namespace Table

variable {A : Type}

def empty : Table A := ⟨[], List.nodup_nil⟩

def isEmpty (table : Table A) : Bool := table.entries.isEmpty

def keys (table : Table A) : List String := table.entries.map Prod.fst

def get? (table : Table A) (key : String) : Option A := table.entries.lookup key

/-- A known key keeps its place, and a new key goes to the end. -/
def putEntry (key : String) (value : A) : List (String × A) → List (String × A)
  | [] => [(key, value)]
  | (other, old) :: rest =>
      if other = key then (key, value) :: rest else (other, old) :: putEntry key value rest

theorem mem_putEntry_keys {key other : String} {value : A} {entries : List (String × A)} :
    other ∈ (putEntry key value entries).map Prod.fst ↔
      other = key ∨ other ∈ entries.map Prod.fst := by
  induction entries with
  | nil => simp [putEntry]
  | cons entry rest inductionHypothesis =>
      by_cases same : entry.1 = key
      · simp [putEntry, same]
      · simp only [putEntry, same, if_false, List.map_cons, List.mem_cons, inductionHypothesis]
        grind

theorem nodup_putEntry_keys {key : String} {value : A} {entries : List (String × A)}
    (distinct : (entries.map Prod.fst).Nodup) :
    ((putEntry key value entries).map Prod.fst).Nodup := by
  induction entries with
  | nil => simp [putEntry]
  | cons entry rest inductionHypothesis =>
      simp only [List.map_cons, List.nodup_cons] at distinct
      by_cases same : entry.1 = key
      · subst same
        simp only [putEntry, if_true, List.map_cons, List.nodup_cons]
        exact distinct
      · simp only [putEntry, same, if_false, List.map_cons, List.nodup_cons]
        refine ⟨fun known => ?_, inductionHypothesis distinct.2⟩
        exact (mem_putEntry_keys.mp known).elim same distinct.1

def put (table : Table A) (key : String) (value : A) : Table A :=
  ⟨putEntry key value table.entries, nodup_putEntry_keys table.distinct⟩

theorem lookup_putEntry (key other : String) (value : A) (entries : List (String × A)) :
    (putEntry key value entries).lookup other =
      if other = key then some value else entries.lookup other := by
  induction entries with
  | nil =>
      by_cases same : other = key
      · simp [putEntry, same]
      · have test : (other == key) = false := by simp [same]
        simp [putEntry, List.lookup_cons, same, test]
  | cons entry rest inductionHypothesis =>
      rcases entry with ⟨known, old⟩
      by_cases same : other = key
      · subst same
        by_cases first : known = other
        · simp [putEntry, first]
        · have test : (other == known) = false := by simp [Ne.symm first]
          simp [putEntry, first, List.lookup_cons, test, inductionHypothesis]
      · have test : (other == key) = false := by simp [same]
        by_cases first : known = key
        · simp [putEntry, first, List.lookup_cons, same, test]
        · simp [putEntry, first, List.lookup_cons, same, inductionHypothesis]

theorem putEntry_keys (key : String) (value : A) (entries : List (String × A)) :
    (putEntry key value entries).map Prod.fst =
      if key ∈ entries.map Prod.fst then entries.map Prod.fst
      else entries.map Prod.fst ++ [key] := by
  induction entries with
  | nil => simp [putEntry]
  | cons entry rest inductionHypothesis =>
      by_cases first : entry.1 = key
      · simp [putEntry, first]
      · simp only [putEntry, first, if_false, List.map_cons, inductionHypothesis, List.mem_cons,
          Ne.symm first, false_or]
        split <;> rfl

@[simp] theorem get?_empty (key : String) : (empty : Table A).get? key = none := rfl

theorem mem_of_get? {table : Table A} {key : String} {value : A}
    (known : table.get? key = some value) : (key, value) ∈ table.entries := by
  obtain ⟨front, back, parts, _⟩ := List.lookup_eq_some_iff.mp known
  simp [parts]

/-- A put changes the value of its own key only. -/
@[simp] theorem get?_put (table : Table A) (key other : String) (value : A) :
    (table.put key value).get? other = if other = key then some value else table.get? other :=
  lookup_putEntry key other value table.entries

/-- A put adds its key at the end unless the key is known. -/
theorem keys_put (table : Table A) (key : String) (value : A) :
    (table.put key value).keys = if key ∈ table.keys then table.keys else table.keys ++ [key] :=
  putEntry_keys key value table.entries

/-- The last value of a key counts, at the place of the first. -/
def ofList (entries : List (String × A)) : Table A :=
  entries.foldl (fun table entry => table.put entry.1 entry.2) empty

end Table

end Playback
