import Mathlib.Tactic.Positivity
import Mathlib.Tactic.Ring
import Playback.Proofs.Json.Numerals

namespace Playback

/-- A value of a precision. All digits of the significand are used unless the scale is the least
one. -/
def Magnitude.Lawful (precision : Precision) : Magnitude → Prop
  | .finite significand scale =>
      significand < 2 ^ precision.digits ∧
        (0 < scale → 2 ^ (precision.digits - 1) ≤ significand) ∧
        significand * 2 ^ scale < 2 ^ (precision.highest + precision.lowest)
  | .infinite => True

instance (precision : Precision) : DecidablePred (Magnitude.Lawful precision)
  | .finite _ _ => inferInstanceAs (Decidable (_ ∧ (_ → _) ∧ _))
  | .infinite => .isTrue trivial

/-- A rounded quotient is the nearest one, so it does not pass a whole number that bounds the
quotient up to a half. -/
theorem nearestQuotient_le_of_lt {dividend divisor bound : Nat}
    (below : 2 * dividend < divisor * (2 * bound + 1)) : nearestQuotient dividend divisor ≤ bound := by
  have parts := Nat.div_add_mod dividend divisor
  rw [nearestQuotient]
  split
  · rename_i up
    have less : divisor * (2 * (dividend / divisor) + 1) < divisor * (2 * bound + 1) := by
      refine Nat.lt_of_le_of_lt ?_ below
      rw [Nat.mul_add, Nat.mul_left_comm]
      omega
    have less := Nat.lt_of_mul_lt_mul_left less
    omega
  · have less : divisor * (2 * (dividend / divisor)) < divisor * (2 * bound + 1) := by
      refine Nat.lt_of_le_of_lt ?_ below
      rw [Nat.mul_left_comm]
      omega
    have less := Nat.lt_of_mul_lt_mul_left less
    omega

/-- A rounded quotient does not pass a whole number that bounds the quotient. -/
theorem nearestQuotient_le {dividend divisor bound : Nat} (below : dividend ≤ divisor * bound)
    (positive : 0 < divisor) : nearestQuotient dividend divisor ≤ bound := by
  refine nearestQuotient_le_of_lt ?_
  rw [Nat.mul_add, Nat.mul_left_comm]
  omega

theorem div_le_nearestQuotient (dividend divisor : Nat) :
    dividend / divisor ≤ nearestQuotient dividend divisor := by
  rw [nearestQuotient]
  split
  · exact Nat.le_succ _
  · exact Nat.le_refl _

/-- Rounding adds at most a half to a quotient. -/
theorem nearestQuotient_mul_le (dividend divisor : Nat) :
    2 * (nearestQuotient dividend divisor * divisor) ≤ 2 * dividend + divisor := by
  have parts := Nat.div_add_mod dividend divisor
  rw [nearestQuotient]
  split
  · rename_i up
    rw [Nat.add_mul, Nat.mul_comm (dividend / divisor)]
    omega
  · rw [Nat.mul_comm (dividend / divisor)]
    omega

namespace Magnitude

variable {precision : Precision}

theorem isFinite_of_units {value : Magnitude} (positive : 0 < value.units) :
    value.isFinite = true := by
  cases value with
  | finite significand scale => rfl
  | infinite => exact absurd positive (Nat.lt_irrefl 0)

/-- A settled significand keeps its value or becomes infinite. -/
theorem settle_eq (significand scale : Nat) (digits : 0 < precision.digits) :
    ∃ grownSignificand grownScale,
      grownSignificand * 2 ^ grownScale = significand * 2 ^ scale ∧
        settle precision significand scale =
          if Nat.pow 2 (precision.highest + precision.lowest) ≤
            grownSignificand * Nat.pow 2 grownScale then .infinite
          else .finite grownSignificand grownScale := by
  by_cases grown : significand = Nat.pow 2 precision.digits
  · refine ⟨2 ^ (precision.digits - 1), scale + 1, ?_, ?_⟩
    · obtain ⟨digits, same⟩ := Nat.exists_eq_add_of_lt digits
      rw [grown, same, Nat.pow_eq]
      simp only [Nat.zero_add, Nat.add_sub_cancel]
      ring
    · simp [settle, grown]
  · exact ⟨significand, scale, rfl, by simp only [settle, grown, if_false]⟩

theorem settle_le {significand scale bound : Nat} (digits : 0 < precision.digits)
    (below : significand * 2 ^ scale ≤ bound)
    (finite : bound < 2 ^ (precision.highest + precision.lowest)) :
    (settle precision significand scale).isFinite = true ∧
      (settle precision significand scale).units ≤ bound := by
  obtain ⟨grownSignificand, grownScale, same, settled⟩ := settle_eq significand scale digits
  have small : ¬ Nat.pow 2 (precision.highest + precision.lowest) ≤
      grownSignificand * Nat.pow 2 grownScale := by
    simp only [Nat.pow_eq]
    omega
  rw [settled, if_neg small]
  exact ⟨rfl, Nat.le_trans (Nat.le_of_eq same) below⟩

theorem units_settle_le (significand scale : Nat) (digits : 0 < precision.digits) :
    (settle precision significand scale).units ≤ significand * 2 ^ scale := by
  obtain ⟨grownSignificand, grownScale, same, settled⟩ := settle_eq significand scale digits
  rw [settled]
  split
  · exact Nat.zero_le _
  · exact Nat.le_of_eq same

/-- A significand that has grown by one bit is settled to a value of the precision. -/
theorem lawful_settle {significand scale : Nat} (digits : 0 < precision.digits)
    (small : significand ≤ 2 ^ precision.digits)
    (full : 0 < scale → 2 ^ (precision.digits - 1) ≤ significand) :
    (settle precision significand scale).Lawful precision := by
  have half : 2 ^ (precision.digits - 1) < 2 ^ precision.digits :=
    Nat.pow_lt_pow_right (by decide) (by omega)
  rw [settle]
  simp only [Nat.pow_eq]
  by_cases grown : significand = 2 ^ precision.digits
  · simp only [grown, if_true]
    split
    · trivial
    · rename_i bounded
      exact ⟨half, fun _ => Nat.le_refl _, Nat.lt_of_not_le bounded⟩
  · simp only [grown, if_false]
    split
    · trivial
    · rename_i bounded
      exact ⟨Nat.lt_of_le_of_ne small grown, full, Nat.lt_of_not_le bounded⟩

/-- What a quotient is rounded to is a value of the precision. -/
theorem lawful_nearest {dividend divisor : Nat} {value : Magnitude}
    (rounded : nearest precision dividend divisor = value) (digits : 0 < precision.digits)
    (positive : 0 < divisor) : value.Lawful precision := by
  rw [← rounded, nearest]
  simp only [Nat.pow_eq]
  generalize dividend * 2 ^ precision.lowest = whole
  generalize chosen : (whole / divisor).log2 + 1 - precision.digits = scale
  refine lawful_settle digits ?_ fun raised => ?_
  · have bits : whole / divisor < 2 ^ (scale + precision.digits) :=
      Nat.lt_of_lt_of_le Nat.lt_log2_self (Nat.pow_le_pow_right (by decide) (by omega))
    refine nearestQuotient_le ?_ (Nat.mul_pos positive (Nat.two_pow_pos scale))
    rw [Nat.mul_assoc, ← Nat.pow_add, Nat.mul_comm]
    exact Nat.le_of_lt ((Nat.div_lt_iff_lt_mul positive).mp bits)
  · have known : whole / divisor ≠ 0 := by
      intro none
      rw [none, Nat.log2_zero] at chosen
      omega
    have least := Nat.log2_self_le known
    rw [show (whole / divisor).log2 = precision.digits - 1 + scale by omega, Nat.pow_add] at least
    refine Nat.le_trans ?_ (div_le_nearestQuotient _ _)
    rw [← Nat.div_div_eq_div_mul]
    exact (Nat.le_div_iff_mul_le (Nat.two_pow_pos scale)).mpr least

/-- A value that is kept as nearly as another precision allows is one of that precision. -/
theorem lawful_convert {target : Precision} {value other : Magnitude}
    (converted : value.convert precision target = other) (digits : 0 < target.digits) :
    other.Lawful target := by
  cases value with
  | finite significand scale => exact lawful_nearest converted digits (Nat.two_pow_pos _)
  | infinite =>
      rw [← converted]
      trivial

theorem lawful_times {left right value : Magnitude} (product : left.times precision right = value)
    (digits : 0 < precision.digits) : value.Lawful precision := by
  rw [times] at product
  split at product
  · exact lawful_nearest product digits (Nat.two_pow_pos _)
  · rw [← product]
    trivial

theorem lawful_dividedBy {left right value : Magnitude}
    (quotient : left.dividedBy precision right = value) (digits : 0 < precision.digits)
    (positive : 0 < right.units) : value.Lawful precision := by
  rw [dividedBy] at quotient
  split at quotient
  · exact lawful_nearest quotient digits positive
  · rw [← quotient]
    trivial

/-- A quotient below a power of two is finite, and rounding does not take it past that power. -/
theorem nearest_le {dividend divisor exponent : Nat} (digits : 0 < precision.digits)
    (below : dividend ≤ divisor * 2 ^ exponent) (positive : 0 < divisor)
    (finite : exponent < precision.highest) :
    (nearest precision dividend divisor).isFinite = true ∧
      (nearest precision dividend divisor).units ≤ 2 ^ (exponent + precision.lowest) := by
  have whole : dividend * 2 ^ precision.lowest ≤ divisor * 2 ^ (exponent + precision.lowest) := by
    rw [Nat.pow_add, ← Nat.mul_assoc]
    exact Nat.mul_le_mul_right _ below
  rw [nearest]
  simp only [Nat.pow_eq]
  generalize chosen : (dividend * 2 ^ precision.lowest / divisor).log2 + 1 - precision.digits = scale
  have within : scale ≤ exponent + precision.lowest := by
    have quotient := Nat.div_le_of_le_mul whole
    have least : (dividend * 2 ^ precision.lowest / divisor).log2 ≤ exponent + precision.lowest := by
      by_cases none : dividend * 2 ^ precision.lowest / divisor = 0
      · simp [none]
      · exact (Nat.pow_le_pow_iff_right (by decide)).mp
          (Nat.le_trans (Nat.log2_self_le none) quotient)
    omega
  have parts : 2 ^ (exponent + precision.lowest) =
      2 ^ scale * 2 ^ (exponent + precision.lowest - scale) := by
    rw [← Nat.pow_add, Nat.add_sub_cancel' within]
  rw [parts, ← Nat.mul_assoc] at whole
  have rounded := nearestQuotient_le whole (Nat.mul_pos positive (Nat.two_pow_pos scale))
  refine settle_le digits ?_ (Nat.pow_lt_pow_right (by decide) (by omega))
  rw [parts, Nat.mul_comm (2 ^ scale)]
  exact Nat.mul_le_mul_right _ rounded

/-- Rounding does not go past the greatest significand at the last scale, and below that scale not
past the next power of two. -/
theorem nearestQuotient_mul_le_greatest {dividend divisor digits scale top : Nat}
    (positive : 0 < divisor) (some : 0 < digits) (within : scale ≤ top)
    (next : dividend / divisor < 2 ^ (scale + digits))
    (below : 2 * dividend < divisor * ((2 ^ (digits + 1) - 1) * 2 ^ top)) :
    nearestQuotient dividend (divisor * 2 ^ scale) * 2 ^ scale ≤ (2 ^ digits - 1) * 2 ^ top := by
  have more : 2 ^ (digits + 1) = 2 ^ digits + 2 ^ digits := by
    rw [Nat.pow_succ, Nat.mul_two]
  have two : 1 < 2 ^ digits := Nat.one_lt_two_pow some.ne'
  rcases Nat.lt_or_eq_of_le within with less | rfl
  · have rounded : nearestQuotient dividend (divisor * 2 ^ scale) ≤ 2 ^ digits := by
      refine nearestQuotient_le ?_ (Nat.mul_pos positive (Nat.two_pow_pos scale))
      rw [Nat.mul_assoc, ← Nat.pow_add, Nat.mul_comm]
      exact Nat.le_of_lt ((Nat.div_lt_iff_lt_mul positive).mp next)
    calc nearestQuotient dividend (divisor * 2 ^ scale) * 2 ^ scale
        ≤ 2 ^ digits * 2 ^ scale := Nat.mul_le_mul_right _ rounded
      _ ≤ (2 * (2 ^ digits - 1)) * 2 ^ scale := Nat.mul_le_mul_right _ (by omega)
      _ = (2 ^ digits - 1) * 2 ^ (scale + 1) := by ring
      _ ≤ (2 ^ digits - 1) * 2 ^ top :=
          Nat.mul_le_mul_left _ (Nat.pow_le_pow_right (by decide) less)
  · refine Nat.mul_le_mul_right _ (nearestQuotient_le_of_lt ?_)
    have half : 2 * (2 ^ digits - 1) + 1 = 2 ^ (digits + 1) - 1 := by
      omega
    rwa [Nat.mul_assoc, Nat.mul_comm (2 ^ scale), half]

/-- A quotient that is nearer to the greatest finite value than to the next power of two is
finite. -/
theorem isFinite_nearest {dividend divisor top : Nat} (digits : 0 < precision.digits)
    (width : precision.digits + top = precision.highest + precision.lowest)
    (below : 2 * (dividend * 2 ^ precision.lowest) <
      divisor * ((2 ^ (precision.digits + 1) - 1) * 2 ^ top)) :
    (nearest precision dividend divisor).isFinite = true := by
  rw [nearest]
  simp only [Nat.pow_eq]
  generalize dividend * 2 ^ precision.lowest = dividend at below
  generalize chosen : (dividend / divisor).log2 + 1 - precision.digits = scale
  have positive : 0 < divisor := Nat.pos_of_mul_pos_right (Nat.zero_lt_of_lt below)
  have quotient : dividend / divisor < 2 ^ (precision.digits + top) := by
    refine (Nat.div_lt_iff_lt_mul positive).mpr ?_
    have whole : divisor * ((2 ^ (precision.digits + 1) - 1) * 2 ^ top) ≤
        2 * (2 ^ (precision.digits + top) * divisor) := by
      calc divisor * ((2 ^ (precision.digits + 1) - 1) * 2 ^ top)
          ≤ divisor * (2 ^ (precision.digits + 1) * 2 ^ top) :=
            Nat.mul_le_mul_left _ (Nat.mul_le_mul_right _ (Nat.sub_le _ _))
        _ = 2 * (2 ^ (precision.digits + top) * divisor) := by ring
    omega
  have within : scale ≤ top := by
    by_cases none : dividend / divisor = 0
    · rw [none, Nat.log2_zero] at chosen
      omega
    · have least := (Nat.log2_lt none).mpr quotient
      omega
  have next : dividend / divisor < 2 ^ (scale + precision.digits) :=
    Nat.lt_of_lt_of_le Nat.lt_log2_self (Nat.pow_le_pow_right (by decide) (by omega))
  have two : 1 < 2 ^ precision.digits := Nat.one_lt_two_pow digits.ne'
  refine (settle_le digits
    (nearestQuotient_mul_le_greatest positive digits within next below) ?_).1
  rw [← width, Nat.pow_add]
  exact Nat.mul_lt_mul_of_pos_right (by omega) (Nat.two_pow_pos top)

/-- Rounding a whole number adds at most half a unit of the last digit. -/
theorem units_nearest_mul_le (value : Nat) (digits : 0 < precision.digits)
    (deep : precision.digits ≤ precision.lowest + 1) :
    (nearest precision value 1).units * 2 ^ precision.digits ≤
      value * 2 ^ precision.lowest * (2 ^ precision.digits + 1) := by
  rw [nearest]
  simp only [Nat.pow_eq, Nat.div_one, Nat.one_mul]
  by_cases none : value = 0
  · subst none
    have zero : nearestQuotient (0 * 2 ^ precision.lowest)
        (2 ^ ((0 * 2 ^ precision.lowest).log2 + 1 - precision.digits)) = 0 := by
      simp [nearestQuotient]
    rw [zero]
    refine Nat.le_trans (Nat.mul_le_mul_right _ (units_settle_le 0 _ digits)) ?_
    simp
  · have least : 2 ^ precision.lowest ≤ value * 2 ^ precision.lowest :=
      Nat.le_mul_of_pos_left _ (Nat.pos_of_ne_zero none)
    generalize value * 2 ^ precision.lowest = dividend at least
    have positive : dividend ≠ 0 :=
      (Nat.lt_of_lt_of_le (Nat.two_pow_pos _) least).ne'
    have deeper : precision.lowest ≤ dividend.log2 := (Nat.le_log2 positive).mpr least
    generalize chosen : dividend.log2 + 1 - precision.digits = scale
    have one : 2 * (2 ^ (scale + precision.digits - 1)) = 2 ^ scale * 2 ^ precision.digits := by
      rw [← Nat.pow_add, ← Nat.pow_succ']
      congr 1
      omega
    have unit : 2 ^ (scale + precision.digits - 1) ≤ dividend := by
      have same : scale + precision.digits - 1 = dividend.log2 := by
        omega
      rw [same]
      exact Nat.log2_self_le positive
    have rounded := Nat.mul_le_mul_right (2 ^ precision.digits)
      (nearestQuotient_mul_le dividend (2 ^ scale))
    have settled := Nat.mul_le_mul_right (2 ^ precision.digits)
      (units_settle_le (nearestQuotient dividend (2 ^ scale)) scale digits)
    rw [Nat.mul_add, Nat.mul_one]
    refine Nat.le_trans settled ?_
    rw [Nat.mul_assoc 2, Nat.add_mul, Nat.mul_assoc 2] at rounded
    omega

/-- The product of two rounded factors is nearer to the greatest finite value than to the next power
of two, if the exact product leaves room for the errors. -/
theorem isFinite_times {left right high : Nat} (digits : 0 < precision.digits)
    (deep : precision.digits ≤ precision.lowest + 1)
    (width : precision.digits + 1 + high = precision.highest)
    (margin : (2 ^ (precision.digits + 1) - 5) * (2 ^ precision.digits + 1) *
      (2 ^ precision.digits + 1) <
        (2 ^ (precision.digits + 1) - 1) * (2 ^ precision.digits * 2 ^ precision.digits))
    (leftFinite : (nearest precision left 1).isFinite = true)
    (rightFinite : (nearest precision right 1).isFinite = true)
    (below : left * right ≤ (2 ^ (precision.digits + 1) - 5) * 2 ^ high) :
    ((nearest precision left 1).times precision (nearest precision right 1)).isFinite = true := by
  have first := units_nearest_mul_le left digits deep
  have second := units_nearest_mul_le right digits deep
  rw [times, leftFinite, rightFinite, Bool.and_self, if_pos rfl]
  refine @isFinite_nearest _ _ _ (precision.lowest + 1 + high) digits (by omega) ?_
  rw [Nat.pow_eq, Nat.two_mul precision.lowest, Nat.pow_add 2 precision.lowest precision.lowest,
    Nat.pow_add 2 (precision.lowest + 1), Nat.pow_succ 2 precision.lowest]
  have units : 0 < 2 ^ precision.lowest := Nat.two_pow_pos precision.lowest
  have scales : 0 < 2 ^ high := Nat.two_pow_pos high
  generalize (nearest precision left 1).units = leftUnits at first
  generalize (nearest precision right 1).units = rightUnits at second
  generalize 2 ^ precision.lowest = unit at *
  generalize 2 ^ high = scale at *
  generalize 2 ^ (precision.digits + 1) - 5 = most at *
  generalize 2 ^ (precision.digits + 1) - 1 = greatest at *
  generalize 2 ^ precision.digits = bits at *
  refine Nat.lt_of_mul_lt_mul_right (a := bits * bits) ?_
  calc 2 * (leftUnits * rightUnits * unit) * (bits * bits)
      = 2 * unit * ((leftUnits * bits) * (rightUnits * bits)) := by ring
    _ ≤ 2 * unit * ((left * unit * (bits + 1)) * (right * unit * (bits + 1))) :=
        Nat.mul_le_mul_left _ (Nat.mul_le_mul first second)
    _ = 2 * unit * unit * unit * ((bits + 1) * (bits + 1)) * (left * right) := by ring
    _ ≤ 2 * unit * unit * unit * ((bits + 1) * (bits + 1)) * (most * scale) :=
        Nat.mul_le_mul_left _ below
    _ = 2 * unit * unit * unit * scale * (most * (bits + 1) * (bits + 1)) := by ring
    _ < 2 * unit * unit * unit * scale * (greatest * (bits * bits)) :=
        Nat.mul_lt_mul_of_pos_left margin (by positivity)
    _ = unit * unit * (greatest * (unit * 2 * scale)) * (bits * bits) := by ring

end Magnitude

namespace Json.Numeral

/-- Every power of ten that a double can hold is finite and at least one. -/
theorem power_lawful {exponent : Nat} (small : exponent ≤ greatestPower) :
    (power exponent).isFinite = true ∧
      2 ^ Precision.double.lowest ≤ (power exponent).units := by
  have known : ∀ exponent : Fin 309, 2 ^ Precision.double.lowest ≤ (power exponent).units := by
    decide +kernel
  have least := known ⟨exponent, Nat.lt_succ_of_le small⟩
  refine ⟨Magnitude.isFinite_of_units ?_, least⟩
  exact Nat.lt_of_lt_of_le (Nat.two_pow_pos _) least

/-- A magnitude that is finite and not greater than `2 ^ 64`. -/
def Small (value : Magnitude) : Prop :=
  value.isFinite = true ∧ value.units ≤ 2 ^ (64 + Precision.double.lowest)

theorem small_nearest {significand : Nat} (small : significand < UInt64.size) :
    Small (Magnitude.nearest .double significand 1) := by
  have bound : UInt64.size = 2 ^ 64 := rfl
  exact Magnitude.nearest_le (by decide) (by omega) (by decide) (by decide)

theorem small_dividedBy {value : Magnitude} {exponent : Nat} (small : Small value)
    (known : exponent ≤ greatestPower) : Small (value.dividedBy .double (power exponent)) := by
  obtain ⟨finite, least⟩ := power_lawful known
  have positive : 0 < (power exponent).units := Nat.lt_of_lt_of_le (Nat.two_pow_pos _) least
  have below : value.units ≤ (power exponent).units * 2 ^ 64 :=
    calc value.units ≤ 2 ^ (64 + Precision.double.lowest) := small.2
      _ = 2 ^ Precision.double.lowest * 2 ^ 64 := by rw [Nat.pow_add, Nat.mul_comm]
      _ ≤ (power exponent).units * 2 ^ 64 := Nat.mul_le_mul_right _ least
  rw [Magnitude.dividedBy, small.1, finite, Bool.and_self, if_pos rfl]
  exact Magnitude.nearest_le (by decide) below positive (by decide)

theorem small_divided {value : Magnitude} (small : Small value) (exponent : Nat) :
    Small (divided value exponent) := by
  fun_induction divided value exponent with
  | case1 value exponent known => exact small_dividedBy small known
  | case2 => exact small
  | case3 value exponent _ _ inductionHypothesis =>
      exact inductionHypothesis (small_dividedBy small (Nat.le_refl _))

theorem finite_of_scaled? {significand : Nat} {exponent : Int} {magnitude : Magnitude}
    (small : significand < UInt64.size) (found : scaled? significand exponent = some magnitude) :
    magnitude.isFinite = true := by
  rw [scaled?] at found
  split at found
  · rw [multiplied?] at found
    split at found
    · obtain ⟨finite, same⟩ := Option.ite_none_right_eq_some.mp found
      rwa [Option.some.inj same] at finite
    · obtain ⟨_, same⟩ := Option.ite_none_right_eq_some.mp found
      rw [← Option.some.inj same]
      exact (small_nearest small).1
  · obtain rfl := Option.some.inj found
    exact (small_divided (small_nearest small) _).1

theorem lawful_divided {value other : Magnitude} {exponent : Nat} (lawful : value.Lawful .double)
    (quotient : divided value exponent = other) : other.Lawful .double := by
  have step {exponent : Nat} {value other : Magnitude} (known : exponent ≤ greatestPower)
      (quotient : value.dividedBy .double (power exponent) = other) : other.Lawful .double := by
    obtain ⟨_, least⟩ := power_lawful known
    exact Magnitude.lawful_dividedBy quotient (by decide)
      (Nat.lt_of_lt_of_le (Nat.two_pow_pos _) least)
  fun_induction divided value exponent with
  | case1 value exponent known => exact step known quotient
  | case2 => rwa [← quotient]
  | case3 value exponent _ _ inductionHypothesis =>
      exact inductionHypothesis (step (Nat.le_refl _) rfl) quotient

theorem lawful_of_scaled? {significand : Nat} {exponent : Int} {magnitude : Magnitude}
    (found : scaled? significand exponent = some magnitude) : magnitude.Lawful .double := by
  rw [scaled?] at found
  generalize rounded : Magnitude.nearest .double significand 1 = start at found
  have lawful : start.Lawful .double := Magnitude.lawful_nearest rounded (by decide) (by decide)
  split at found
  · rw [multiplied?] at found
    split at found
    · obtain ⟨_, same⟩ := Option.ite_none_right_eq_some.mp found
      exact Magnitude.lawful_times (Option.some.inj same) (by decide)
    · obtain ⟨_, same⟩ := Option.ite_none_right_eq_some.mp found
      rwa [← Option.some.inj same]
  · exact lawful_divided lawful (Option.some.inj found)

theorem lawful_of_number? {numeral : Numeral} {value : Binary.Double}
    (found : numeral.number? = some (.double value)) : value.magnitude.Lawful .double := by
  rw [number?] at found
  split at found
  · cases found
  · obtain ⟨double, scaled, same⟩ := Option.map_eq_some_iff.mp found
    obtain rfl := Number.double.inj same
    rw [double?] at scaled
    obtain ⟨magnitude, known, rfl⟩ := Option.map_eq_some_iff.mp scaled
    exact lawful_of_scaled? known

/-- A numeral stands for a finite double, if it stands for one. -/
theorem finite_of_number? {numeral : Numeral} {value : Binary.Double}
    (found : numeral.number? = some (.double value)) : value.magnitude.isFinite = true := by
  rw [number?] at found
  split at found
  · cases found
  · obtain ⟨double, scaled, same⟩ := Option.map_eq_some_iff.mp found
    obtain rfl := Number.double.inj same
    rw [double?] at scaled
    obtain ⟨magnitude, finite, rfl⟩ := Option.map_eq_some_iff.mp scaled
    exact finite_of_scaled? (absorb_lt (@absorb_lt 0 (by decide) numeral.whole) _) finite

end Json.Numeral

end Playback
