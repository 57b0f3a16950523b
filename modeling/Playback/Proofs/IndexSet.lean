import Mathlib.Data.List.Sort
import Playback.Json.Scalars
import Playback.Proofs.Json.Scalars

namespace Playback

open Json

namespace IndexSet

theorem mem_foldl_insert {index : UInt64} {indices : List UInt64} {set : IndexSet} :
    index ∈ (indices.foldl insert set).indices ↔ index ∈ set.indices ∨ index ∈ indices := by
  induction indices generalizing set with
  | nil => simp
  | cons first rest inductionHypothesis =>
      rw [List.foldl_cons, inductionHypothesis, List.mem_cons, insert, mem_place]
      grind

/-- A set is told by its members. -/
theorem eq_of_mem_iff {set other : IndexSet}
    (same : ∀ index, index ∈ set.indices ↔ index ∈ other.indices) : set = other := by
  have distinct (set : IndexSet) : set.indices.Nodup :=
    set.ascending.imp fun before => UInt64.ne_of_lt before
  have permuted : set.indices.Perm other.indices :=
    (List.perm_ext_iff_of_nodup (distinct set) (distinct other)).mpr same
  have indices : set.indices = other.indices := by
    refine permuted.eq_of_pairwise (fun first second _ _ before after => ?_) set.ascending
      other.ascending
    exact absurd (UInt64.lt_trans before after) (UInt64.lt_irrefl first)
  cases set
  cases other
  simp_all

theorem ofList_indices (set : IndexSet) : ofList set.indices = set :=
  eq_of_mem_iff fun _ => mem_foldl_insert.trans (or_iff_right List.not_mem_nil)

/-- A set is read back from its ascending list. -/
theorem reader_toJson (room : Nat) (set : IndexSet) :
    IndexSet.reader (room + 1) set.toJson.document = .ok set := by
  have listed := Reader.map_ok ofList
    (@Reader.list_listOf _ _ room _ set.indices fun index _ => Reader.word64_word room "usize" index)
  rwa [ofList_indices] at listed

end IndexSet

end Playback
