namespace Playback

structure IndexSet where
  indices : List UInt64
  ascending : indices.Pairwise (· < ·)
deriving DecidableEq

namespace IndexSet

def empty : IndexSet := ⟨[], List.Pairwise.nil⟩

def place (index : UInt64) : List UInt64 → List UInt64
  | [] => [index]
  | other :: rest =>
      if index < other then index :: other :: rest
      else if index = other then other :: rest
      else other :: place index rest

theorem mem_place {index other : UInt64} {indices : List UInt64} :
    other ∈ place index indices ↔ other = index ∨ other ∈ indices := by
  induction indices with
  | nil => simp [place]
  | cons first rest inductionHypothesis =>
      by_cases before : index < first
      · simp [place, before]
      · by_cases same : index = first
        · subst same; simp [place]
        · simp only [place, before, same, if_false, List.mem_cons, inductionHypothesis]
          grind

theorem pairwise_place {index : UInt64} {indices : List UInt64}
    (ascending : indices.Pairwise (· < ·)) : (place index indices).Pairwise (· < ·) := by
  induction indices with
  | nil => simp [place]
  | cons first rest inductionHypothesis =>
      have ⟨beyond, sorted⟩ := List.pairwise_cons.mp ascending
      by_cases before : index < first
      · simp only [place, before, if_true]
        refine List.pairwise_cons.mpr ⟨fun other known => ?_, ascending⟩
        rcases List.mem_cons.mp known with rfl | known
        · exact before
        · exact UInt64.lt_trans before (beyond other known)
      · by_cases same : index = first
        · subst same
          simpa [place] using ascending
        · simp only [place, before, same, if_false]
          refine List.pairwise_cons.mpr ⟨fun other known => ?_, inductionHypothesis sorted⟩
          rcases mem_place.mp known with rfl | known
          · have : first.toNat ≠ other.toNat := fun equal =>
              same (UInt64.toNat_inj.mp equal.symm)
            rw [UInt64.lt_iff_toNat_lt] at before ⊢
            omega
          · exact beyond other known

def insert (set : IndexSet) (index : UInt64) : IndexSet :=
  ⟨place index set.indices, pairwise_place set.ascending⟩

def ofList (indices : List UInt64) : IndexSet := indices.foldl insert empty

/-- Positions of a run are natural numbers, of which the set holds small ones. -/
def holds (set : IndexSet) (position : Nat) : Bool :=
  set.indices.any fun index => index.toNat == position

end IndexSet

end Playback
