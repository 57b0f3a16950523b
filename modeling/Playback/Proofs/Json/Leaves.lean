import Playback.Json.Document

namespace Playback.Json.Document

variable (holds : Token → Prop)

mutual

/-- Every number and every string in a document has the property as a token. -/
def Holds : Document → Prop
  | .number written => holds (.number written)
  | .text quoted => holds (.text quoted)
  | .list items _ => HoldsItems items
  | .object members _ | .misnamed members _ => HoldsMembers members
  | .null | .boolean _ | .stray _ | .severed _ | .absent => True

def HoldsItems : List Document → Prop
  | [] => True
  | item :: rest => Holds item ∧ HoldsItems rest

def HoldsMembers : List (Quoted × Document) → Prop
  | [] => True
  | (key, value) :: rest => holds (.text key) ∧ Holds value ∧ HoldsMembers rest

end

/-- If the tokens have the property, so have the parsed result and the tokens after it. -/
def Kept (tokens : List Token) {result : Type} {bound : Nat} (good : result → Prop)
    (parsed : Parsed result bound) : Prop :=
  (∀ token ∈ tokens, holds token) → good parsed.result ∧ ∀ token ∈ parsed.rest, holds token

theorem kept_parseValue (token : Token) (rest : List Token) :
    Kept holds (token :: rest) (Holds holds) (parseValue token rest) := by
  apply @parseValue.induct
    (fun token rest => Kept holds (token :: rest) (Holds holds) (parseValue token rest))
    (fun tokens => Kept holds tokens (fun members => HoldsMembers holds members.1)
      (parseObject tokens))
    (fun token rest => Kept holds (token :: rest) (fun members => HoldsMembers holds members.1)
      (parseMember token rest))
    (fun tokens => Kept holds tokens (fun members => HoldsMembers holds members.1)
      (parseMembers tokens))
    (fun tokens => Kept holds tokens (Holds holds) (parseMarked tokens))
    (fun tokens => Kept holds tokens (fun items => HoldsItems holds items.1) (parseList tokens))
    (fun token rest => Kept holds (token :: rest) (fun items => HoldsItems holds items.1)
      (parseItem token rest))
    (fun tokens => Kept holds tokens (fun items => HoldsItems holds items.1) (parseItems tokens))
  case case2 =>
    -- The members of an object are kept, however they end.
    intro rest members after within parsed inner all
    obtain ⟨kept, others⟩ := inner (List.forall_mem_cons.mp all).2
    rw [parsed] at kept others
    rw [parseValue, parsed]
    obtain ⟨members, ending | found⟩ := members
    · exact ⟨kept, others⟩
    · exact ⟨kept, others⟩
  case case15 =>
    intro rest key first middle start marked others ending after within parsed value more all
    obtain ⟨name, all⟩ := List.forall_mem_cons.mp all
    have kept := value all
    rw [marked] at kept
    have rests := more kept.2
    rw [parsed] at rests
    rw [parseMember, marked]
    simp only [parsed]
    exact ⟨⟨name, kept.1, rests.1⟩, rests.2⟩
  case case30 =>
    intro token rest first middle start read others ending after within parsed value more all
    have kept := value all
    rw [read] at kept
    have rests := more kept.2
    rw [parsed] at rests
    rw [parseItem, read]
    simp only [parsed]
    exact ⟨⟨kept.1, rests.1⟩, rests.2⟩
  all_goals
    intros
    simp_all [Kept, parseValue, parseObject, parseMember, parseMembers, parseMarked, parseList,
      parseItem, parseItems, Holds, HoldsItems, HoldsMembers, ofItems]

/-- A property of the tokens of a text is one of its document. -/
theorem holds_ofText {text : String} (all : ∀ token ∈ Token.scan text.toList, holds token) :
    Holds holds (ofText text).1 := by
  rw [ofText]
  split
  · trivial
  · rename_i token rest scanned
    rw [scanned] at all
    exact (kept_parseValue holds token rest all).1

end Playback.Json.Document
