/-
This file shows that the text of a float is a number, although the reader rounds each power of ten
and each product on its own and may not come back to the float.
-/

import Playback.Proofs.Json.Decimals
import Playback.Proofs.Json.Doubles
import Playback.Proofs.Json.Rereading

namespace Playback

namespace Magnitude.Lawful

variable {precision : Precision} {significand scale top : Nat}

/-- The scale of a finite value leaves room for its digits. -/
theorem scale_le (digits : 0 < precision.digits)
    (width : precision.digits + top = precision.highest + precision.lowest)
    (lawful : (Magnitude.finite significand scale).Lawful precision) : scale ≤ top := by
  obtain ⟨_, full, bounded⟩ := lawful
  refine Nat.le_of_not_lt fun beyond => ?_
  have least := full (Nat.zero_lt_of_lt beyond)
  refine absurd bounded (Nat.not_lt.mpr ?_)
  calc 2 ^ (precision.highest + precision.lowest)
      = 2 ^ (precision.digits - 1) * 2 ^ (top + 1) := by
        rw [← width, ← Nat.pow_add]
        congr 1
        omega
    _ ≤ significand * 2 ^ scale :=
        Nat.mul_le_mul least (Nat.pow_le_pow_right (by decide) beyond)

/-- A value that is not one of the two greatest ones is well below the next power of two. -/
theorem high_le (digits : 3 ≤ precision.digits)
    (width : precision.digits + top = precision.highest + precision.lowest)
    (lawful : (Magnitude.finite significand scale).Lawful precision)
    (below : scale < top ∨ significand + 3 ≤ 2 ^ precision.digits) :
    2 ^ (scale + 1) * (2 * significand + 1) ≤ 2 ^ (top + 1) * (2 ^ (precision.digits + 1) - 5) := by
  have within := scale_le (by omega) width lawful
  have small := lawful.1
  have double : 2 ^ (precision.digits + 1) = 2 * 2 ^ precision.digits := Nat.pow_succ'
  have eight : 2 ^ 3 ≤ 2 ^ precision.digits := Nat.pow_le_pow_right (by decide) digits
  rcases below with less | less
  · calc 2 ^ (scale + 1) * (2 * significand + 1)
        ≤ 2 ^ top * (2 * (2 ^ (precision.digits + 1) - 5)) :=
          Nat.mul_le_mul (Nat.pow_le_pow_right (by decide) less) (by omega)
      _ = 2 ^ (top + 1) * (2 ^ (precision.digits + 1) - 5) := by
          rw [Nat.pow_succ 2 top, Nat.mul_assoc]
  · exact Nat.mul_le_mul (Nat.pow_le_pow_right (by decide) (Nat.succ_le_succ within)) (by omega)

end Magnitude.Lawful

namespace Decimal

open Json Numeral

section Grids

variable {interval : Interval} {quarters step : Nat} {place : Int} {point : Point}

/-- A grid is fine if there is a multiple of its step above the value and inside of the interval. -/
structure Interval.Fine (interval : Interval) (step : Nat) : Prop where
  positive : 0 < step
  proper : interval.low < interval.value
  small : interval.value + step < interval.high

theorem Interval.between_of_holds {position : Nat} (holds : interval.holds position = true) :
    interval.low ≤ position ∧ position ≤ interval.high := by
  rw [Interval.holds] at holds
  split at holds
  · simpa using holds
  · have strict : interval.low < position ∧ position < interval.high := by simpa using holds
    omega

theorem Interval.holds_of_choose {digits : Nat} (chosen : interval.choose step = some digits) :
    interval.holds (digits * step) = true := by
  rw [Interval.choose] at chosen
  split at chosen
  · rename_i below above
    obtain rfl := Option.some.inj chosen
    split
    · exact below
    · exact above
  · rename_i below _
    obtain rfl := Option.some.inj chosen
    exact below
  · rename_i _ above
    obtain rfl := Option.some.inj chosen
    exact above
  · contradiction

/-- The next multiple above the value is in the interval. -/
theorem Interval.choose_of_fine (fine : interval.Fine step) :
    (interval.choose step).isSome = true := by
  have parts := Nat.div_add_mod interval.value step
  have rest := Nat.mod_lt interval.value fine.positive
  have proper := fine.proper
  have small := fine.small
  have above : interval.holds ((interval.value / step + 1) * step) = true := by
    have next : (interval.value / step + 1) * step =
        interval.value - interval.value % step + step := by
      rw [Nat.add_mul, Nat.one_mul, Nat.mul_comm]
      omega
    rw [next, Interval.holds]
    split
    · simp only [Bool.and_eq_true, decide_eq_true_eq]
      omega
    · simp only [Bool.and_eq_true, decide_eq_true_eq]
      omega
  rw [Interval.choose]
  simp only [above]
  split <;> first | rfl | contradiction

/-- The decimal of a grid point lies in the interval. -/
theorem spec_of_pointAt (found : pointAt interval quarters place = some point) :
    AtMost point.digits point.place interval.high quarters ∧
      (0 < interval.low → 0 < point.digits) := by
  rw [pointAt] at found
  simp only [Nat.pow_eq] at found
  obtain ⟨digits, chosen, rfl⟩ := Option.map_eq_some_iff.mp found
  dsimp only [AtMost]
  split at chosen
  · rename_i whole
    obtain ⟨above, below⟩ := Interval.between_of_holds (Interval.holds_of_choose chosen)
    have none : (-place).toNat = 0 := by
      omega
    refine ⟨?_, fun positive => ?_⟩
    · rw [none, Nat.pow_zero, Nat.mul_one, Nat.mul_assoc, Nat.mul_comm (10 ^ _)]
      exact below
    · exact Nat.pos_of_mul_pos_right (Nat.lt_of_lt_of_le positive above)
  · rename_i part
    obtain ⟨above, below⟩ := Interval.between_of_holds (Interval.holds_of_choose chosen)
    have none : place.toNat = 0 := by
      omega
    refine ⟨?_, fun positive => ?_⟩
    · rw [none, Nat.pow_zero, Nat.mul_one]
      exact below
    · have stretched : 0 < interval.low * 10 ^ (-place).toNat :=
        Nat.mul_pos positive (Nat.pow_pos (by decide))
      exact Nat.pos_of_mul_pos_right (Nat.lt_of_lt_of_le stretched above)

/-- A grid has a point in the interval if its step is less than what lies above the value. -/
theorem pointAt_isSome {gap : Nat} (proper : interval.low < interval.value)
    (wide : interval.high = interval.value + gap) (positive : 0 < quarters)
    (small : quarters * 10 ^ place.toNat < gap * 10 ^ (-place).toNat) :
    (pointAt interval quarters place).isSome = true := by
  rw [pointAt, Option.isSome_map]
  simp only [Nat.pow_eq]
  have ten (exponent : Nat) : 0 < 10 ^ exponent := Nat.pow_pos (by decide)
  split
  · rename_i whole
    have none : (-place).toNat = 0 := by
      omega
    rw [none, Nat.pow_zero, Nat.mul_one] at small
    exact Interval.choose_of_fine ⟨Nat.mul_pos positive (ten _), proper, by omega⟩
  · rename_i part
    have none : place.toNat = 0 := by
      omega
    rw [none, Nat.pow_zero, Nat.mul_one] at small
    refine Interval.choose_of_fine ⟨positive, Nat.mul_lt_mul_of_pos_right proper (ten _), ?_⟩
    simp only [Interval.stretch, wide, Nat.add_mul]
    omega

/-- A step that is small at one place is small at every finer place. -/
theorem step_lt_of_le {last : Int} {gap : Nat} (finer : place ≤ last)
    (small : quarters * 10 ^ last.toNat < gap * 10 ^ (-last).toNat) :
    quarters * 10 ^ place.toNat < gap * 10 ^ (-place).toNat := by
  have powers : 10 ^ place.toNat * 10 ^ (-last).toNat ≤ 10 ^ last.toNat * 10 ^ (-place).toNat := by
    rw [← Nat.pow_add, ← Nat.pow_add]
    exact Nat.pow_le_pow_right (by decide) (by omega)
  have ten : 0 < 10 ^ (-place).toNat := Nat.pow_pos (by decide)
  refine Nat.lt_of_mul_lt_mul_right (a := 10 ^ (-last).toNat) ?_
  calc quarters * 10 ^ place.toNat * 10 ^ (-last).toNat
      = quarters * (10 ^ place.toNat * 10 ^ (-last).toNat) := Nat.mul_assoc _ _ _
    _ ≤ quarters * (10 ^ last.toNat * 10 ^ (-place).toNat) := Nat.mul_le_mul_left _ powers
    _ = quarters * 10 ^ last.toNat * 10 ^ (-place).toNat := (Nat.mul_assoc _ _ _).symm
    _ < gap * 10 ^ (-last).toNat * 10 ^ (-place).toNat := Nat.mul_lt_mul_of_pos_right small ten
    _ = gap * 10 ^ (-place).toNat * 10 ^ (-last).toNat := Nat.mul_right_comm _ _ _

/-- A search that comes to a grid with a point ends with a point of the interval. -/
theorem search_eq {count offset : Nat} (within : offset < count)
    (found : (pointAt interval quarters (place - offset)).isSome = true) :
    ∃ grid, pointAt interval quarters grid = some (search interval quarters count place) := by
  induction count generalizing place offset with
  | zero => contradiction
  | succ count inductionHypothesis =>
      rw [search]
      split
      · rename_i point here
        exact ⟨place, here⟩
      · rename_i none
        cases offset with
        | zero =>
            rw [Int.natCast_zero, Int.sub_zero, none] at found
            contradiction
        | succ offset =>
            refine inductionHypothesis (Nat.lt_of_succ_lt_succ within) ?_
            rwa [Int.natCast_succ, Int.add_comm, ← Int.sub_sub] at found

end Grids

/-- The place of the last grid for the greatest significand. -/
def lastPlace (precision : Precision) (scale : Nat) : Int :=
  ((precision.digits : Int) + scale - precision.lowest) * 30103 / 100000 - precision.digits

/-- The last grid is finer than the values. -/
def Precise (precision : Precision) : Prop :=
  ∀ scale : Fin (precision.highest + precision.lowest),
    4 * 2 ^ precision.lowest * 10 ^ (lastPlace precision scale).toNat <
      2 * 2 ^ scale.val * 10 ^ (-lastPlace precision scale).toNat

instance (precision : Precision) : Decidable (Precise precision) :=
  inferInstanceAs (Decidable (∀ _ : Fin _, _))

theorem precise_double : Precise .double := by
  decide +kernel

theorem precise_single : Precise .single := by
  decide +kernel

section Shortest

variable {precision : Precision} {significand scale : Nat}

theorem high_interval (precision : Precision) (significand scale : Nat) :
    (interval precision significand scale).high = 2 ^ (scale + 1) * (2 * significand + 1) := by
  simp only [Decimal.interval, Nat.pow_eq]
  ring

theorem low_interval (precision : Precision) (positive : 0 < significand) :
    0 < (interval precision significand scale).low ∧
      (interval precision significand scale).low <
        (interval precision significand scale).value := by
  have unit := Nat.two_pow_pos scale
  have least : 4 * 2 ^ scale ≤ 4 * significand * 2 ^ scale :=
    Nat.mul_le_mul_right _ (by omega)
  simp only [Decimal.interval, Nat.pow_eq]
  split <;> omega

/-- The last place of the search does not lie above the one for the greatest significand. -/
theorem ceilingPlace_le (positive : 0 < significand) (small : significand < 2 ^ precision.digits) :
    ceilingPlace (interval precision significand scale).value (4 * 2 ^ precision.lowest) -
      (precision.digits + 2 : Nat) ≤ lastPlace precision scale := by
  have value : (interval precision significand scale).value.log2 ≤
      precision.digits + 1 + scale := by
    have nonzero : (interval precision significand scale).value ≠ 0 :=
      (Nat.zero_lt_of_lt (low_interval precision positive).2).ne'
    refine Nat.lt_succ_iff.mp ((Nat.log2_lt nonzero).mpr ?_)
    simp only [Decimal.interval, Nat.pow_eq]
    calc 4 * significand * 2 ^ scale < 4 * 2 ^ precision.digits * 2 ^ scale :=
          Nat.mul_lt_mul_of_pos_right (by omega) (Nat.two_pow_pos scale)
      _ = 2 ^ (precision.digits + 1 + scale + 1) := by ring
  have quarters : (4 * 2 ^ precision.lowest).log2 = precision.lowest + 2 := by
    rw [show 4 * 2 ^ precision.lowest = 2 ^ (precision.lowest + 2) by ring, Nat.log2_two_pow]
  rw [ceilingPlace, quarters, lastPlace]
  generalize (interval precision significand scale).value.log2 = length at value
  omega

/-- The search for the shortest decimal ends in the interval of the value. -/
theorem shortest_eq (precise : Precise precision) (positive : 0 < significand)
    (lawful : (Magnitude.finite significand scale).Lawful precision) :
    ∃ grid, pointAt (interval precision significand scale) (4 * 2 ^ precision.lowest) grid =
      some (shortest precision significand scale) := by
  obtain ⟨small, _, bounded⟩ := lawful
  have inside : scale < precision.highest + precision.lowest := by
    refine (Nat.pow_lt_pow_iff_right (by decide)).mp (Nat.lt_of_le_of_lt ?_ bounded)
    exact Nat.le_mul_of_pos_left _ positive
  obtain ⟨_, proper⟩ := @low_interval _ scale precision positive
  rw [shortest]
  simp only [Nat.pow_eq]
  refine search_eq (Nat.lt_succ_self (precision.digits + 2)) ?_
  refine pointAt_isSome proper rfl (Nat.mul_pos (by decide) (Nat.two_pow_pos _)) ?_
  exact step_lt_of_le (ceilingPlace_le positive small) (precise ⟨scale, inside⟩)

end Shortest

end Decimal

namespace Json

open Decimal

namespace Numeral

/-- A product up to this bound stays finite, although both factors and the product are rounded. -/
def greatestProduct : Nat :=
  (2 ^ (Precision.double.digits + 1) - 5) *
    2 ^ (Precision.double.highest - (Precision.double.digits + 1))

/-- A significand with a power of ten has a finite product if the exact one is below the bound. -/
theorem scaled?_isSome {significand exponent : Nat} (small : significand < UInt64.size)
    (below : significand * 10 ^ exponent ≤ greatestProduct) :
    (scaled? significand exponent).isSome = true := by
  rw [scaled?, if_pos (Int.natCast_nonneg exponent), Int.toNat_natCast, multiplied?]
  split
  · rename_i known
    have left := small_nearest small
    have right := power_lawful known
    have finite : ((Magnitude.nearest .double significand 1).times .double
        (power exponent)).isFinite = true :=
      Magnitude.isFinite_times (by decide) (by decide) rfl (by decide) left.1 right.1 below
    simp only [finite, if_true, Option.isSome_some]
  · rename_i large
    have least : greatestProduct < 10 ^ (greatestPower + 1) := by
      decide +kernel
    have power : 10 ^ (greatestPower + 1) ≤ 10 ^ exponent :=
      Nat.pow_le_pow_right (by decide) (Nat.lt_of_not_le large)
    have none : significand = 0 := by
      refine Nat.eq_zero_of_not_pos fun positive => ?_
      have most := Nat.le_mul_of_pos_left (10 ^ exponent) positive
      omega
    subst none
    decide +kernel

theorem scalable_of_le {numerator denominator : Nat} (positive : 0 < denominator)
    (bound : numerator ≤ denominator * greatestProduct) : Scalable numerator denominator := by
  intro significand exponent small below
  refine scaled?_isSome small (Nat.le_of_mul_le_mul_left ?_ positive)
  rw [Nat.mul_comm]
  exact Nat.le_trans below bound

/-- The text of a positive decimal that is not too large is a number with any sign. -/
theorem scan_of_spells {text : String} {point : Point} {numerator denominator : Nat}
    (spells : Spells point text) (below : AtMost point.digits point.place numerator denominator)
    (scalable : Scalable numerator denominator) (negative : Bool) :
    ∃ number, scan (if negative then "-" ++ text else text).toList = (.exact number, []) := by
  obtain ⟨numeral, spelled, tells⟩ := spells negative
  obtain ⟨number, found⟩ := Option.isSome_iff_exists.mp
    (number?_isSome tells.short (tells.value _ _ below) scalable)
  have taken : read (if negative then "-" ++ text else text).toList = .ok (numeral, []) := by
    cases negative with
    | true =>
        rw [if_pos rfl, String.toList_append]
        exact spelled
    | false =>
        rw [if_neg nofun, read]
        · exact spelled
        · intro rest minus
          rw [minus] at spelled
          contradiction
  exact ⟨number, by rw [scan, taken]; simp only [found]⟩

end Numeral

namespace Number

variable {significand scale : Nat}

theorem scan_zero (negative : Bool) :
    Numeral.scan (if negative then "-" ++ "0.0" else "0.0").toList =
      (.exact (.double ⟨negative, .zero⟩), []) := by
  cases negative <;> decide +kernel

/-- The two greatest doubles of a sign are both read as the greatest one. -/
theorem scan_greatest (negative : Bool) {less : Nat} (last : less ∈ [1, 2]) :
    Numeral.scan (Number.double ⟨negative, .finite (2 ^ 53 - less) 2045⟩).text.toList =
      (.exact (.double ⟨negative, .finite (2 ^ 53 - 1) 2045⟩), []) := by
  have all : ∀ negative, ∀ less ∈ [1, 2],
      Numeral.scan (Number.double ⟨negative, .finite (2 ^ 53 - less) 2045⟩).text.toList =
        (.exact (.double ⟨negative, .finite (2 ^ 53 - 1) 2045⟩), []) := by
    decide +kernel
  exact all negative less last

/-- The text of a finite value is a number if its interval is not beyond the greatest product. -/
theorem scan_decimal {precision : Precision} {style : Style} (negative : Bool)
    (precise : Precise precision) (short : style.high ≤ 19)
    (lawful : (Magnitude.finite significand scale).Lawful precision)
    (bound : 2 ^ (scale + 1) * (2 * significand + 1) ≤
      4 * 2 ^ precision.lowest * Numeral.greatestProduct) :
    ∃ number, Numeral.scan (((⟨negative, .finite significand scale⟩ : Binary precision).decimal?
      style).getD "null").toList = (.exact number, []) := by
  simp only [Binary.decimal?, Option.getD_some]
  by_cases none : significand = 0
  · rw [if_pos none]
    exact ⟨_, scan_zero negative⟩
  · have positive := Nat.pos_of_ne_zero none
    obtain ⟨grid, found⟩ := shortest_eq precise positive lawful
    obtain ⟨below, given⟩ := spec_of_pointAt found
    rw [high_interval] at below
    have spelled := Numeral.spells_text (given (low_interval precision positive).1) short
    rw [if_neg none]
    exact Numeral.scan_of_spells spelled below
      (Numeral.scalable_of_le (Nat.mul_pos (by decide) (Nat.two_pow_pos _)) bound) negative

/-- The text of every double is a number or null. -/
theorem clear_double {value : Binary.Double} (lawful : value.magnitude.Lawful .double) :
    (Number.double value).Clear := by
  obtain ⟨negative, magnitude⟩ := value
  cases magnitude with
  | infinite => exact .inl rfl
  | finite significand scale =>
      have width : Precision.double.digits + 2045 =
          Precision.double.highest + Precision.double.lowest := rfl
      have within := Magnitude.Lawful.scale_le (by decide) width lawful
      by_cases below : scale < 2045 ∨ significand + 3 ≤ 2 ^ Precision.double.digits
      · refine .inr (scan_decimal negative precise_double (by decide) lawful ?_)
        refine Nat.le_trans (Magnitude.Lawful.high_le (by decide) width lawful below) ?_
        decide +kernel
      · obtain ⟨last, least⟩ := not_or.mp below
        obtain rfl : scale = 2045 := by
          omega
        have small : significand < 2 ^ 53 := lawful.1
        have least : ¬ significand + 3 ≤ 2 ^ 53 := least
        obtain ⟨less, known, rfl⟩ : ∃ less ∈ [1, 2], significand = 2 ^ 53 - less := by
          have two : significand = 2 ^ 53 - 1 ∨ significand = 2 ^ 53 - 2 := by
            omega
          rcases two with one | two
          · exact ⟨1, by decide, one⟩
          · exact ⟨2, by decide, two⟩
        exact .inr ⟨_, scan_greatest negative known⟩

/-- The text of every single is a number or null. -/
theorem clear_single {value : Binary.Single} (lawful : value.magnitude.Lawful .single) :
    (Number.single value).Clear := by
  obtain ⟨negative, magnitude⟩ := value
  cases magnitude with
  | infinite => exact .inl rfl
  | finite significand scale =>
      have within := @Magnitude.Lawful.scale_le _ _ _ 253 (by decide) rfl lawful
      have small : significand < 2 ^ Precision.single.digits := lawful.1
      refine .inr (scan_decimal negative precise_single (by decide) lawful ?_)
      calc 2 ^ (scale + 1) * (2 * significand + 1)
          ≤ 2 ^ (253 + 1) * (2 * 2 ^ Precision.single.digits) :=
            Nat.mul_le_mul (Nat.pow_le_pow_right (by decide) (Nat.succ_le_succ within)) (by omega)
        _ ≤ 4 * 2 ^ Precision.single.lowest * Numeral.greatestProduct := by
            decide +kernel

/-- An integer of 64 bits or a value of its precision. -/
def Lawful : Number → Prop
  | .integer value => Numeral.Fits value
  | .double value => value.magnitude.Lawful .double
  | .single value => value.magnitude.Lawful .single

instance : DecidablePred Lawful
  | .integer value => inferInstanceAs (Decidable (_ ∧ value < _))
  | .double value => inferInstanceAs (Decidable (value.magnitude.Lawful .double))
  | .single value => inferInstanceAs (Decidable (value.magnitude.Lawful .single))

theorem Lawful.clear {number : Number} (lawful : number.Lawful) : number.Clear := by
  cases number with
  | integer value => exact .inr ⟨_, Numeral.scan_integer lawful⟩
  | double value => exact clear_double lawful
  | single value => exact clear_single lawful

end Number

end Json

end Playback
