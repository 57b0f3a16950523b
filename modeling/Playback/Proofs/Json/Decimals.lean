import Mathlib.Tactic.Ring
import Playback.Proofs.Json.Numerals

namespace Playback.Json.Numeral

/-- A decimal is at most a fraction. -/
def AtMost (digits : Nat) (place : Int) (numerator denominator : Nat) : Prop :=
  digits * 10 ^ place.toNat * denominator ≤ numerator * 10 ^ (-place).toNat

/-- The value of all digits of a numeral. -/
def digitsValue (numeral : Numeral) : Nat :=
  ofDigits (numeral.whole ++ numeral.fraction.getD [])

/-- The place of the last digit of a numeral. -/
def place (numeral : Numeral) : Int :=
  numeral.exponent.getD 0 - (numeral.fraction.getD []).length

/-- All factors and powers of ten below a fraction have a finite product. -/
def Scalable (numerator denominator : Nat) : Prop :=
  ∀ significand exponent : Nat, significand < UInt64.size →
    significand * 10 ^ exponent * denominator ≤ numerator →
      (scaled? significand exponent).isSome = true

section Digits

theorem ofDigits_append (front back : List Nat) :
    ofDigits (front ++ back) = ofDigits front * 10 ^ back.length + ofDigits back := by
  have shifted (value : Nat) :
      back.foldl (fun value digit => 10 * value + digit) value =
        value * 10 ^ back.length + ofDigits back := by
    rw [ofDigits]
    induction back generalizing value with
    | nil => simp
    | cons digit back inductionHypothesis =>
        rw [List.foldl_cons, List.foldl_cons, inductionHypothesis,
          inductionHypothesis (10 * 0 + digit), List.length_cons, Nat.pow_succ]
        ring
  rw [ofDigits, List.foldl_append, shifted]
  rfl

theorem ofDigits_zeros (count : Nat) : ofDigits (List.replicate count 0) = 0 := by
  induction count with
  | zero => rfl
  | succ count inductionHypothesis =>
      rw [List.replicate_succ', ofDigits_append, inductionHypothesis]
      rfl

theorem ofDigits_lt {digits : List Nat} (small : ∀ digit ∈ digits, digit < 10) :
    ofDigits digits < 10 ^ digits.length := by
  induction digits with
  | nil => decide
  | cons digit digits inductionHypothesis =>
      obtain ⟨first, others⟩ := List.forall_mem_cons.mp small
      have rest := inductionHypothesis others
      rw [← List.singleton_append, ofDigits_append, List.length_append, List.length_singleton,
        Nat.pow_add, show ofDigits [digit] = digit from Nat.zero_add digit]
      have bound := Nat.mul_le_mul_right (10 ^ digits.length) (Nat.le_pred_of_lt first)
      simp only [Nat.pred_eq_sub_one] at bound
      omega

/-- The digits that join the significand are no more than all of them. -/
theorem absorb_le (significand : Nat) (digits : List Nat) :
    (absorb significand digits).1 * 10 ^ (absorb significand digits).2.length ≤
      significand * 10 ^ digits.length + ofDigits digits := by
  induction digits generalizing significand with
  | nil => simp [absorb]
  | cons digit digits inductionHypothesis =>
      rw [absorb]
      split
      · refine Nat.le_trans (inductionHypothesis _) (Nat.le_of_eq ?_)
        rw [← List.singleton_append, ofDigits_append, List.length_append, List.length_singleton,
          Nat.pow_add, show ofDigits [digit] = digit from Nat.zero_add digit]
        ring
      · exact Nat.le_add_right _ _

theorem absorb_suffix (significand : Nat) (digits : List Nat) :
    (absorb significand digits).2 <:+ digits := by
  induction digits generalizing significand with
  | nil => exact List.suffix_refl []
  | cons digit digits inductionHypothesis =>
      rw [absorb]
      split
      · exact (inductionHypothesis _).trans (List.suffix_cons digit digits)
      · exact List.suffix_refl _

end Digits

/-- Dropped digits do not take a decimal past a fraction. -/
theorem AtMost.mul_pow_le {digits significand dropped exponent numerator denominator : Nat}
    {place : Int} (below : AtMost digits place numerator denominator)
    (total : significand * 10 ^ dropped ≤ digits) (same : (exponent : Int) = place + dropped) :
    significand * 10 ^ exponent * denominator ≤ numerator := by
  have powers : 10 ^ exponent * 10 ^ (-place).toNat = 10 ^ dropped * 10 ^ place.toNat := by
    rw [← Nat.pow_add, ← Nat.pow_add]
    congr 1
    omega
  have positive : 0 < 10 ^ (-place).toNat := Nat.pow_pos (by decide)
  refine Nat.le_of_mul_le_mul_right ?_ positive
  calc significand * 10 ^ exponent * denominator * 10 ^ (-place).toNat
      = significand * (10 ^ exponent * 10 ^ (-place).toNat) * denominator := by ring
    _ = significand * 10 ^ dropped * 10 ^ place.toNat * denominator := by rw [powers]; ring
    _ ≤ digits * 10 ^ place.toNat * denominator :=
        Nat.mul_le_mul_right _ (Nat.mul_le_mul_right _ total)
    _ ≤ numerator * 10 ^ (-place).toNat := below

/-- A numeral of a short whole part stands for a number if its value is below a fraction up to which
products are finite. -/
theorem number?_isSome {numeral : Numeral} {numerator denominator : Nat}
    (short : ofDigits numeral.whole < UInt64.size)
    (below : AtMost numeral.digitsValue numeral.place numerator denominator)
    (scalable : Scalable numerator denominator) : numeral.number?.isSome = true := by
  have scaled : numeral.double?.isSome = true := by
    have whole : absorb 0 numeral.whole = (ofDigits numeral.whole, []) := absorb_of_small short
    rw [double?, whole]
    dsimp only
    rw [Option.isSome_map]
    have small := absorb_lt short (numeral.fraction.getD [])
    have total := absorb_le (ofDigits numeral.whole) (numeral.fraction.getD [])
    have fewer := (absorb_suffix (ofDigits numeral.whole) (numeral.fraction.getD [])).length_le
    rw [← ofDigits_append] at total
    generalize absorb (ofDigits numeral.whole) (numeral.fraction.getD []) = parts at *
    generalize power : (([] : List Nat).length : Int) -
      ((numeral.fraction.getD []).length - parts.2.length : Nat) + numeral.exponent.getD 0 = exponent
    have shifted : exponent = numeral.place + parts.2.length := by
      rw [← power, place, List.length_nil]
      omega
    -- Quotients are always finite, and products by the bound.
    cases exponent with
    | ofNat exponent =>
        exact scalable parts.1 exponent small (below.mul_pow_le total shifted)
    | negSucc exponent =>
        rw [scaled?, if_neg (by omega)]
        rfl
  rw [number?]
  split
  · rfl
  · rwa [Option.isSome_map]

section Parts

/-- The letters of a fraction, if there is one. -/
def fractionLetters (fraction : Option (List Char)) : List Char :=
  (fraction.map fun digits => '.' :: digits).getD []

/-- The letters of an exponent, if there is one. -/
def exponentLetters (exponent : Option Int) : List Char :=
  (exponent.map fun value => 'e' :: (Decimal.signed value).toList).getD []

/-- At least one letter, and all of them are digits. -/
structure AreDigits (letters : List Char) : Prop where
  given : letters ≠ []
  all : ∀ letter ∈ letters, isDigit letter = true

/-- A whole part is a zero or does not start with one. -/
structure IsWhole (letters : List Char) : Prop extends AreDigits letters where
  leading : letters = ['0'] ∨ ∀ rest, letters ≠ '0' :: rest

theorem digitValue_lt {letter : Char} (digit : isDigit letter = true) : digitValue letter < 10 := by
  rw [isDigit, Bool.and_eq_true, decide_eq_true_eq, decide_eq_true_eq] at digit
  have last : letter.toNat ≤ '9'.toNat := digit.2
  change letter.toNat - 48 < 10
  have nine : '9'.toNat = 57 := rfl
  omega

theorem areDigits_toDigits (value : Nat) : AreDigits (Nat.toDigits 10 value) :=
  ⟨Nat.toDigits_ne_nil, fun _ => isDigit_of_mem_toDigits⟩

variable {letters rest : List Char}

theorem someDigits_of_areDigits (digits : AreDigits letters)
    (stop : (rest.head?.map isDigit).getD false = false) :
    someDigits (letters ++ rest) = .ok (letters.map digitValue, rest) := by
  obtain ⟨letter, others, rfl⟩ := List.exists_cons_of_ne_nil digits.given
  have first := digits.all letter List.mem_cons_self
  have none : rest.takeWhile isDigit = [] ∧ rest.dropWhile isDigit = rest := by
    cases rest with
    | nil => exact ⟨rfl, rfl⟩
    | cons letter rest =>
        have other : isDigit letter = false := stop
        simp [other]
  rw [List.cons_append, someDigits, if_pos first, ← List.cons_append, Numeral.digits, afterDigits,
    List.takeWhile_append_of_pos digits.all, List.dropWhile_append_of_pos digits.all, none.1,
    none.2, List.append_nil]

theorem readWhole_of_isWhole (whole : IsWhole letters)
    (stop : (rest.head?.map isDigit).getD false = false) :
    readWhole (letters ++ rest) = .ok (letters.map digitValue, rest) := by
  rcases whole.leading with rfl | other
  · rw [List.singleton_append, readWhole, stop]
    rfl
  · obtain ⟨letter, others, rfl⟩ := List.exists_cons_of_ne_nil whole.given
    rw [← someDigits_of_areDigits whole.toAreDigits stop, List.cons_append, readWhole]
    intro after same
    exact other others (by rw [(List.cons.inj same).1])

theorem readFraction_letters {fraction : Option (List Char)}
    (digits : ∀ letters ∈ fraction, AreDigits letters) (exponent : Option Int) :
    readFraction (fractionLetters fraction ++ exponentLetters exponent) =
      .ok (fraction.map fun letters => letters.map digitValue, exponentLetters exponent) := by
  cases fraction with
  | none =>
      cases exponent with
      | none => rfl
      | some value => rfl
  | some letters =>
      have stop : ((exponentLetters exponent).head?.map isDigit).getD false = false := by
        cases exponent <;> rfl
      change (someDigits (letters ++ exponentLetters exponent)).map _ = _
      rw [someDigits_of_areDigits (digits letters rfl) stop]
      rfl

theorem readExponent_letters (exponent : Option Int) :
    readExponent (exponentLetters exponent) = .ok (exponent, []) := by
  cases exponent with
  | none => rfl
  | some value =>
      have read : someDigits (Nat.toDigits 10 value.natAbs) =
          .ok ((Nat.toDigits 10 value.natAbs).map digitValue, []) := by
        have read := @someDigits_of_areDigits _ [] (areDigits_toDigits value.natAbs) rfl
        rwa [List.append_nil] at read
      have letters : (Decimal.signed value).toList =
          (if value < 0 then '-' else '+') :: Nat.toDigits 10 value.natAbs := by
        rw [Decimal.signed, String.toList_append, Nat.toString_eq_ofList_toDigits,
          String.toList_ofList]
        split <;> rfl
      change readExponent ('e' :: (Decimal.signed value).toList) = _
      rw [letters, readExponent, if_pos (.inl rfl)]
      by_cases negative : value < 0
      · have size : -(value.natAbs : Int) = value := by omega
        simp only [negative, if_true, sign, read, Except.map, ofDigits_toDigits, size]
      · have size : (value.natAbs : Int) = value := by omega
        simp only [negative, if_false, sign, read, Except.map, ofDigits_toDigits, size,
          Bool.false_eq_true]

/-- The parts of a number are read one after the other. -/
theorem unsigned_letters (negative : Bool) (whole : IsWhole letters) {fraction : Option (List Char)}
    (digits : ∀ letters ∈ fraction, AreDigits letters) (exponent : Option Int) :
    unsigned negative (letters ++ (fractionLetters fraction ++ exponentLetters exponent)) =
      .ok (⟨negative, letters.map digitValue,
        fraction.map fun letters => letters.map digitValue, exponent⟩, []) := by
  have stop : ((fractionLetters fraction ++ exponentLetters exponent).head?.map
      isDigit).getD false = false := by
    cases fraction <;> cases exponent <;> rfl
  simp only [unsigned, readWhole_of_isWhole whole stop, readFraction_letters digits,
    readExponent_letters, bind, Except.bind, pure, Except.pure]

end Parts

section Points

open Decimal

/-- The numeral has a short whole part and the value of the decimal. -/
structure Tells (numeral : Numeral) (point : Point) : Prop where
  short : ofDigits numeral.whole < UInt64.size
  value : ∀ numerator denominator, AtMost point.digits point.place numerator denominator →
    AtMost numeral.digitsValue numeral.place numerator denominator

/-- A text that is read as a numeral that tells the decimal. -/
def Spells (point : Point) (text : String) : Prop :=
  ∀ negative, ∃ numeral : Numeral,
    unsigned negative text.toList = .ok (numeral, []) ∧ numeral.Tells point

variable {point : Point} {front : Int}

theorem areDigits_zeros {count : Nat} {letters : List Char} (digits : AreDigits letters) :
    AreDigits (List.replicate count '0' ++ letters) := by
  refine ⟨by simp [digits.given], fun letter member => ?_⟩
  rcases List.mem_append.mp member with zero | digit
  · rw [List.eq_of_mem_replicate zero]
    rfl
  · exact digits.all letter digit

theorem map_zeros (count : Nat) :
    (List.replicate count '0').map digitValue = List.replicate count 0 :=
  List.map_replicate

/-- The numeral of the parts tells the decimal if it has the same digits at the same place. -/
theorem spells_of_letters {text : String} {letters : List Char} {fraction : Option (List Char)}
    {exponent : Option Int}
    (spelled : text.toList = letters ++ (fractionLetters fraction ++ exponentLetters exponent))
    (whole : IsWhole letters) (digits : ∀ letters ∈ fraction, AreDigits letters)
    (short : letters.length ≤ 19)
    (value : ∀ numerator denominator, AtMost point.digits point.place numerator denominator →
      AtMost (ofDigits ((letters ++ fraction.getD []).map digitValue))
        (exponent.getD 0 - (fraction.getD []).length) numerator denominator) :
    Spells point text := by
  intro negative
  refine ⟨_, spelled ▸ unsigned_letters negative whole digits exponent, ?_, ?_⟩
  · have below : ofDigits (letters.map digitValue) < 10 ^ letters.length := by
      rw [← List.length_map digitValue]
      refine ofDigits_lt fun digit member => ?_
      obtain ⟨letter, known, rfl⟩ := List.mem_map.mp member
      exact digitValue_lt (whole.all letter known)
    exact Nat.lt_of_lt_of_le below
      (Nat.le_trans (Nat.pow_le_pow_right (by decide) short) (by decide))
  · intro numerator denominator below
    have same := value numerator denominator below
    cases fraction <;> simpa [digitsValue, place] using same

/-- A part of the digits of a number. -/
theorem areDigits_part {letters part : List Char} (digits : AreDigits letters) (given : part ≠ [])
    (within : ∀ letter ∈ part, letter ∈ letters) : AreDigits part :=
  ⟨given, fun letter member => digits.all letter (within letter member)⟩

/-- The first digits of a positive number are a whole part. -/
theorem isWhole_take {value count : Nat} (positive : 0 < value) (some : 0 < count) (tail : List Char)
    (digits : ∀ letter ∈ tail, isDigit letter = true) :
    IsWhole ((Nat.toDigits 10 value).take count ++ tail) := by
  have whole := areDigits_toDigits value
  obtain ⟨letter, others, same⟩ := List.exists_cons_of_ne_nil whole.given
  obtain ⟨count, rfl⟩ := Nat.exists_eq_add_of_lt some
  have first : letter ≠ '0' := by
    rintro rfl
    exact head_toDigits positive others same
  rw [same] at whole ⊢
  simp only [Nat.zero_add, List.take_succ_cons, List.cons_append]
  refine ⟨⟨List.cons_ne_nil _ _, fun digit member => ?_⟩, .inr fun rest equal =>
    first (List.cons.inj equal).1⟩
  rcases List.mem_cons.mp member with rfl | member
  · exact whole.all digit List.mem_cons_self
  · rcases List.mem_append.mp member with member | member
    · exact whole.all digit (List.mem_cons_of_mem _ (List.mem_of_mem_take member))
    · exact digits digit member

/-- A value below one has zeros before its digits. -/
theorem spells_of_front_le {front : Int} (ahead : front ≤ 0)
    (place : front = (Nat.toDigits 10 point.digits).length + point.place) :
    Spells point (positional (Nat.toDigits 10 point.digits) front) := by
  refine @spells_of_letters _ _ ['0']
    (some (List.replicate (-front).toNat '0' ++ Nat.toDigits 10 point.digits)) none ?_ ?_ ?_ ?_ ?_
  · simp [positional, ahead, zeros, fractionLetters, exponentLetters]
  · exact ⟨⟨by simp, by simp; rfl⟩, .inl rfl⟩
  · rintro letters same
    obtain rfl := Option.some.inj same
    exact areDigits_zeros (areDigits_toDigits point.digits)
  · simp
  · have total : ofDigits ((['0'] ++ (List.replicate (-front).toNat '0' ++
        Nat.toDigits 10 point.digits)).map digitValue) = point.digits := by
      have zero : ofDigits (['0'].map digitValue) = 0 := rfl
      rw [List.map_append, List.map_append, ofDigits_append, ofDigits_append, zero, map_zeros,
        ofDigits_zeros, ofDigits_toDigits]
      simp
    have last : ((none : Option Int).getD 0 - (List.replicate (-front).toNat '0' ++
        Nat.toDigits 10 point.digits).length : Int) = point.place := by
      rw [List.length_append, List.length_replicate, Option.getD_none]
      omega
    intro numerator denominator below
    rw [Option.getD_some, total, last]
    exact below

/-- The point stands between the digits. -/
theorem spells_of_front_lt {front : Int} (positive : 0 < point.digits) (ahead : 0 < front)
    (within : front < (Nat.toDigits 10 point.digits).length) (short : front ≤ 19)
    (place : front = (Nat.toDigits 10 point.digits).length + point.place) :
    Spells point (positional (Nat.toDigits 10 point.digits) front) := by
  refine @spells_of_letters _ _ ((Nat.toDigits 10 point.digits).take front.toNat)
    (some ((Nat.toDigits 10 point.digits).drop front.toNat)) none ?_ ?_ ?_ ?_ ?_
  · simp [positional, Int.not_le.mpr ahead, Int.not_le.mpr within, fractionLetters,
      exponentLetters]
  · have whole := @isWhole_take _ front.toNat positive (by omega) [] nofun
    rwa [List.append_nil] at whole
  · rintro letters same
    obtain rfl := Option.some.inj same
    refine areDigits_part (areDigits_toDigits point.digits) ?_ fun _ => List.mem_of_mem_drop
    rw [ne_eq, List.drop_eq_nil_iff]
    omega
  · rw [List.length_take]
    omega
  · have last : ((none : Option Int).getD 0 -
        ((Nat.toDigits 10 point.digits).drop front.toNat).length : Int) = point.place := by
      rw [List.length_drop, Option.getD_none]
      omega
    intro numerator denominator below
    rw [Option.getD_some, List.take_append_drop, ofDigits_toDigits, last]
    exact below

/-- A whole number has zeros after its digits and one more behind the point. -/
theorem spells_of_le_front {front : Int} (positive : 0 < point.digits)
    (beyond : (Nat.toDigits 10 point.digits).length ≤ front) (short : front ≤ 19)
    (place : front = (Nat.toDigits 10 point.digits).length + point.place) :
    Spells point (positional (Nat.toDigits 10 point.digits) front) := by
  have given := List.length_pos_iff.mpr (areDigits_toDigits point.digits).given
  have ahead : ¬ front ≤ 0 := by omega
  refine @spells_of_letters _ _ (Nat.toDigits 10 point.digits ++
    List.replicate (front.toNat - (Nat.toDigits 10 point.digits).length) '0') (some ['0']) none
    ?_ ?_ ?_ ?_ ?_
  · simp [positional, ahead, beyond, zeros, fractionLetters, exponentLetters]
  · have whole := isWhole_take positive given
      (List.replicate (front.toNat - (Nat.toDigits 10 point.digits).length) '0') ?_
    · rwa [List.take_length] at whole
    · intro letter member
      rw [List.eq_of_mem_replicate member]
      rfl
  · rintro letters same
    obtain rfl := Option.some.inj same
    exact ⟨by simp, by simp; rfl⟩
  · rw [List.length_append, List.length_replicate]
    omega
  · generalize zeros : front.toNat - (Nat.toDigits 10 point.digits).length = count
    have size : point.place = count := by omega
    have total : ofDigits (((Nat.toDigits 10 point.digits ++ List.replicate count '0') ++
        ['0']).map digitValue) = point.digits * 10 ^ (count + 1) := by
      have zero : ofDigits (['0'].map digitValue) = 0 := rfl
      rw [List.map_append, List.map_append, ofDigits_append, ofDigits_append, zero, map_zeros,
        ofDigits_zeros, ofDigits_toDigits, List.length_replicate, Nat.pow_succ]
      simp [Nat.mul_assoc]
    intro numerator denominator below
    rw [Option.getD_some, total]
    rw [AtMost, size] at below
    simp only [Int.toNat_natCast, Int.toNat_neg_natCast, Nat.pow_zero, Nat.mul_one] at below
    change _ * 10 ^ 0 * denominator ≤ numerator * 10 ^ 1
    calc point.digits * 10 ^ (count + 1) * 10 ^ 0 * denominator
        = point.digits * 10 ^ count * denominator * 10 ^ 1 := by ring
      _ ≤ numerator * 10 ^ 1 := Nat.mul_le_mul_right _ below

/-- One digit stands before the point, and the exponent tells how far it is from its place. -/
theorem spells_exponential {front : Int} (positive : 0 < point.digits)
    (place : front = (Nat.toDigits 10 point.digits).length + point.place) :
    Spells point (exponential (Nat.toDigits 10 point.digits) front) := by
  have given := List.length_pos_iff.mpr (areDigits_toDigits point.digits).given
  have whole := @isWhole_take _ 1 positive (by decide) [] nofun
  rw [List.append_nil] at whole
  by_cases single : (Nat.toDigits 10 point.digits).length ≤ 1
  · refine @spells_of_letters _ _ ((Nat.toDigits 10 point.digits).take 1) none (some (front - 1))
      ?_ whole nofun ?_ ?_
    · simp [exponential, single, fractionLetters, exponentLetters]
    · rw [List.length_take]
      omega
    · intro numerator denominator below
      have last : (some (front - 1)).getD 0 - (([] : List Char).length : Int) = point.place := by
        rw [Option.getD_some, List.length_nil]
        omega
      rw [Option.getD_none, List.append_nil, List.take_of_length_le single, ofDigits_toDigits, last]
      exact below
  · refine @spells_of_letters _ _ ((Nat.toDigits 10 point.digits).take 1)
      (some ((Nat.toDigits 10 point.digits).drop 1)) (some (front - 1)) ?_ whole ?_ ?_ ?_
    · simp [exponential, single, fractionLetters, exponentLetters]
    · rintro letters same
      obtain rfl := Option.some.inj same
      refine areDigits_part (areDigits_toDigits point.digits) ?_ fun _ => List.mem_of_mem_drop
      rw [ne_eq, List.drop_eq_nil_iff]
      omega
    · rw [List.length_take]
      omega
    · intro numerator denominator below
      have last : (some (front - 1)).getD 0 -
          (((Nat.toDigits 10 point.digits).drop 1).length : Int) = point.place := by
        rw [Option.getD_some, List.length_drop]
        omega
      rw [Option.getD_some, List.take_append_drop, ofDigits_toDigits, last]
      exact below

/-- Every text of a positive decimal spells it. -/
theorem spells_text {style : Style} (positive : 0 < point.digits) (short : style.high ≤ 19) :
    Spells point (point.text style) := by
  rw [Point.text]
  generalize size : (Nat.toDigits 10 point.digits).length + point.place = front
  split
  · rename_i inside
    by_cases ahead : front ≤ 0
    · exact spells_of_front_le ahead size.symm
    · by_cases beyond : (Nat.toDigits 10 point.digits).length ≤ front
      · exact spells_of_le_front positive beyond (by omega) size.symm
      · exact spells_of_front_lt positive (by omega) (by omega) (by omega) size.symm
  · exact spells_exponential positive size.symm

end Points

end Playback.Json.Numeral
