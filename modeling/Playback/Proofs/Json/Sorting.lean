import Mathlib.Data.List.Induction
import Playback.Json.Value

namespace Playback.Json

/-- The keys stand in order, and none comes twice. -/
def Sorted (members : List (String × Json)) : Prop :=
  members.Pairwise fun left right => left.1 < right.1

theorem mem_of_mem_putMember {key : String} {value : Json} {member : String × Json}
    {members : List (String × Json)} (put : member ∈ putMember key value members) :
    member = (key, value) ∨ member ∈ members := by
  induction members with
  | nil => exact .inl (List.mem_singleton.mp put)
  | cons first rest inductionHypothesis =>
      rw [putMember] at put
      split at put
      · exact List.mem_cons.mp put
      · split at put
        · exact (List.mem_cons.mp put).imp_right (List.mem_cons_of_mem first)
        · rcases List.mem_cons.mp put with rfl | later
          · exact .inr List.mem_cons_self
          · exact (inductionHypothesis later).imp_right (List.mem_cons_of_mem first)

theorem sorted_putMember {key : String} {value : Json} {members : List (String × Json)}
    (sorted : Sorted members) : Sorted (putMember key value members) := by
  induction members with
  | nil => exact List.pairwise_singleton _ _
  | cons first rest inductionHypothesis =>
      obtain ⟨above, others⟩ := List.pairwise_cons.mp sorted
      rw [putMember]
      split
      · rename_i before
        refine List.pairwise_cons.mpr ⟨fun member known => ?_, sorted⟩
        rcases List.mem_cons.mp known with rfl | later
        · exact before
        · exact String.lt_trans before (above member later)
      · rename_i notBefore
        split
        · rename_i same
          exact List.pairwise_cons.mpr ⟨fun member known => same ▸ above member known, others⟩
        · rename_i other
          have after : first.1 < key := by
            rcases Std.lt_trichotomy key first.1 with before | same | after
            · exact absurd before notBefore
            · exact absurd same other
            · exact after
          refine List.pairwise_cons.mpr ⟨fun member known => ?_, inductionHypothesis others⟩
          rcases mem_of_mem_putMember known with rfl | later
          · exact after
          · exact above member later

/-- A member behind all others goes to the end. -/
theorem putMember_of_last {key : String} {value : Json} {members : List (String × Json)}
    (last : ∀ member ∈ members, member.1 < key) :
    putMember key value members = members ++ [(key, value)] := by
  induction members with
  | nil => rfl
  | cons first rest inductionHypothesis =>
      obtain ⟨before, others⟩ := List.forall_mem_cons.mp last
      have other : key ≠ first.1 := by
        rintro rfl
        exact String.lt_irrefl _ before
      rw [putMember, if_neg (String.lt_asymm before), if_neg other, inductionHypothesis others]
      rfl

theorem sortMembers_concat (members : List (String × Json)) (member : String × Json) :
    sortMembers (members ++ [member]) = putMember member.1 member.2 (sortMembers members) := by
  rw [sortMembers, sortMembers, List.foldl_append]
  rfl

theorem sorted_sortMembers (members : List (String × Json)) : Sorted (sortMembers members) := by
  induction members using List.reverseRecOn with
  | nil => exact List.Pairwise.nil
  | append_singleton members member inductionHypothesis =>
      rw [sortMembers_concat]
      exact sorted_putMember inductionHypothesis

theorem mem_of_mem_sortMembers {member : String × Json} {members : List (String × Json)}
    (known : member ∈ sortMembers members) : member ∈ members := by
  induction members using List.reverseRecOn with
  | nil => exact known
  | append_singleton members last inductionHypothesis =>
      rw [sortMembers_concat] at known
      rcases mem_of_mem_putMember known with rfl | known
      · exact List.mem_append_right members List.mem_cons_self
      · exact List.mem_append_left [last] (inductionHypothesis known)

/-- Sorted members are not moved. -/
theorem sortMembers_of_sorted {members : List (String × Json)} (sorted : Sorted members) :
    sortMembers members = members := by
  induction members using List.reverseRecOn with
  | nil => rfl
  | append_singleton members last inductionHypothesis =>
      obtain ⟨front, _, below⟩ := List.pairwise_append.mp sorted
      rw [sortMembers_concat, inductionHypothesis front, putMember_of_last]
      exact fun member known => below member known last List.mem_cons_self

/-- A new key joins the others. -/
theorem perm_putMember {key : String} {value : Json} {members : List (String × Json)}
    (new : key ∉ members.map Prod.fst) :
    (putMember key value members).Perm ((key, value) :: members) := by
  induction members with
  | nil => exact .refl _
  | cons first rest inductionHypothesis =>
      obtain ⟨other, new⟩ := not_or.mp (List.mem_cons.not.mp new)
      rw [putMember, if_neg other]
      split
      · exact .refl _
      · exact ((inductionHypothesis new).cons first).trans (.swap ..)

/-- Sorting only moves members of distinct keys. -/
theorem perm_sortMembers {members : List (String × Json)}
    (distinct : (members.map Prod.fst).Nodup) : (sortMembers members).Perm members := by
  induction members using List.reverseRecOn with
  | nil => exact .refl _
  | append_singleton members last inductionHypothesis =>
      rw [List.map_append, List.nodup_append] at distinct
      obtain ⟨front, _, apart⟩ := distinct
      have sorted := inductionHypothesis front
      have new : last.1 ∉ (sortMembers members).map Prod.fst := fun known =>
        apart _ ((sorted.map Prod.fst).mem_iff.mp known) _ List.mem_cons_self rfl
      rw [sortMembers_concat]
      exact (perm_putMember new).trans ((sorted.cons last).trans (List.perm_append_singleton ..).symm)

end Playback.Json
