import Playback.Json.Value

namespace Playback.Json

mutual

/-- The numbers that stand in a value. -/
def numbers : Json → List Number
  | .null | .boolean _ | .text _ => []
  | .number value => [value]
  | .list items => numbersOfItems items
  | .object members => numbersOfMembers members

def numbersOfItems : List Json → List Number
  | [] => []
  | item :: rest => numbers item ++ numbersOfItems rest

def numbersOfMembers : List (String × Json) → List Number
  | [] => []
  | (_, value) :: rest => numbers value ++ numbersOfMembers rest

end

/-- All numbers in a value have a property. -/
def AllNumbers (holds : Number → Prop) (value : Json) : Prop :=
  ∀ number ∈ value.numbers, holds number

variable {holds : Number → Prop}

instance [DecidablePred holds] (value : Json) : Decidable (AllNumbers holds value) :=
  inferInstanceAs (Decidable (∀ number ∈ value.numbers, holds number))

@[simp] theorem allNumbers_null : AllNumbers holds .null := nofun

@[simp] theorem allNumbers_text (value : String) : AllNumbers holds (.text value) := nofun

@[simp] theorem allNumbers_boolean (value : Bool) : AllNumbers holds (.boolean value) := nofun

@[simp] theorem allNumbers_number {value : Number} :
    AllNumbers holds (.number value) ↔ holds value := by
  simp [AllNumbers, numbers]

@[simp] theorem allNumbers_list {items : List Json} :
    AllNumbers holds (.list items) ↔ ∀ item ∈ items, AllNumbers holds item := by
  induction items with
  | nil => simp [AllNumbers, numbers, numbersOfItems]
  | cons item items inductionHypothesis =>
      simp only [AllNumbers, numbers, numbersOfItems, List.forall_mem_append,
        List.forall_mem_cons] at inductionHypothesis ⊢
      rw [inductionHypothesis]

@[simp] theorem allNumbers_object {members : List (String × Json)} :
    AllNumbers holds (.object members) ↔ ∀ member ∈ members, AllNumbers holds member.2 := by
  induction members with
  | nil => simp [AllNumbers, numbers, numbersOfMembers]
  | cons member members inductionHypothesis =>
      simp only [AllNumbers, numbers, numbersOfMembers, List.forall_mem_append,
        List.forall_mem_cons] at inductionHypothesis ⊢
      rw [inductionHypothesis]

@[simp] theorem allNumbers_listOf {A : Type} {write : A → Json} {items : List A} :
    AllNumbers holds (listOf write items) ↔ ∀ item ∈ items, AllNumbers holds (write item) := by
  simp [listOf]

@[simp] theorem allNumbers_optional {A : Type} {write : A → Json} {option : Option A} :
    AllNumbers holds (optional write option) ↔ ∀ value ∈ option, AllNumbers holds (write value) := by
  cases option <;> simp [optional]

@[simp] theorem forall_mem_given {A : Type} {name : String} {write : A → Json} {option : Option A}
    {property : String × Json → Prop} :
    (∀ member ∈ given name write option, property member) ↔
      ∀ value ∈ option, property (name, write value) := by
  cases option <;> simp [given]

@[simp] theorem forall_mem_givenList {A : Type} {name : String} {write : A → Json}
    {items : List A} {property : String × Json → Prop} :
    (∀ member ∈ givenList name write items, property member) ↔
      (items ≠ [] → property (name, listOf write items)) := by
  cases items <;> simp [givenList]

end Playback.Json
