import Playback.Text.Shortened

namespace Playback.Text

variable {limit smaller : Nat} {text : String}

theorem shorten_of_le (fits : text.length ≤ limit) : shorten limit text = text := if_pos fits

theorem toList_shorten_of_lt (long : limit < text.length) :
    (shorten limit text).toList = text.toList.take (limit - 3) ++ ['.', '.', '.'] := by
  have dots : "...".toList = ['.', '.', '.'] := rfl
  rw [shorten, if_neg (Nat.not_le.mpr long), String.toList_append, String.toList_ofList, dots]

/-- The three dots stand even where the limit leaves no room for them. -/
theorem length_shorten_of_lt (long : limit < text.length) :
    (shorten limit text).length = max limit 3 := by
  rw [← String.length_toList] at long
  rw [← String.length_toList, toList_shorten_of_lt (by rwa [← String.length_toList])]
  simp only [List.length_append, List.length_take, List.length_cons, List.length_nil]
  omega

theorem length_shorten_le (limit : Nat) (text : String) :
    (shorten limit text).length ≤ max limit 3 := by
  rcases Nat.lt_or_ge limit text.length with long | fits
  · exact Nat.le_of_eq (length_shorten_of_lt long)
  · rw [shorten_of_le fits]
    omega

/-- The characters that a lower limit keeps come before the dots. -/
theorem take_shorten (within : smaller ≤ limit) (long : limit < text.length) :
    (shorten limit text).toList.take (smaller - 3) = text.toList.take (smaller - 3) := by
  have kept : smaller - 3 ≤ (text.toList.take (limit - 3)).length := by
    rw [List.length_take, String.length_toList]
    omega
  rw [toList_shorten_of_lt long, List.take_append_of_le_length kept, List.take_take,
    Nat.min_eq_left (by omega)]

theorem shorten_shorten (text : String) (within : smaller ≤ limit) :
    shorten smaller (shorten limit text) = shorten smaller text := by
  rcases Nat.lt_or_ge limit text.length with long | fits
  · have length := length_shorten_of_lt long
    by_cases same : smaller = limit ∧ 3 ≤ limit
    · obtain ⟨rfl, room⟩ := same
      rw [shorten_of_le (by omega)]
    · -- The shortened text is still too long, even if it is nothing but dots.
      have still : smaller < (shorten limit text).length := by
        omega
      apply String.toList_inj.mp
      rw [toList_shorten_of_lt still, take_shorten within long,
        toList_shorten_of_lt (Nat.lt_of_le_of_lt within long)]
  · rw [shorten_of_le fits]

/-- A text within the limit stays as it is. A longer one is cut to the limit and ends in dots, or
becomes the dots alone, and a lower limit cuts the cut text like the whole one. -/
theorem laws_of_shorten (text : String) (limit : Nat) :
    (shorten limit text).length ≤ max limit 3 ∧
      (text.length ≤ limit → shorten limit text = text) ∧
      (limit < text.length → 3 ≤ limit → (shorten limit text).length = limit ∧
        (shorten limit text).toList = text.toList.take (limit - 3) ++ ['.', '.', '.']) ∧
      (∀ smaller, smaller ≤ limit → shorten smaller (shorten limit text) = shorten smaller text) ∧
      shorten limit (shorten limit text) = shorten limit text := by
  refine ⟨length_shorten_le limit text, shorten_of_le, fun long room => ⟨?_, ?_⟩,
    fun smaller => shorten_shorten text, shorten_shorten text (Nat.le_refl limit)⟩
  · rw [length_shorten_of_lt long, Nat.max_eq_left room]
  · exact toList_shorten_of_lt long

/-- A text of eleven characters is cut to ten, and then to the dots. -/
theorem laws_of_shorten_letters :
    "abcdefghijk".length = 11 ∧ (shorten 10 "abcdefghijk").length = 10 ∧
      (shorten 10 "abcdefghijk").toList = "abcdefghijk".toList.take 7 ++ ['.', '.', '.'] ∧
      shorten 2 (shorten 10 "abcdefghijk") = shorten 2 "abcdefghijk" ∧
      shorten 11 "abcdefghijk" = "abcdefghijk" := by
  obtain ⟨_, _, cut, absorbed, _⟩ := laws_of_shorten "abcdefghijk" 10
  obtain ⟨_, kept, _⟩ := laws_of_shorten "abcdefghijk" 11
  obtain ⟨length, letters⟩ := cut (by decide) (by decide)
  exact ⟨by decide, length, letters, absorbed 2 (by decide), kept (by decide)⟩

end Playback.Text
