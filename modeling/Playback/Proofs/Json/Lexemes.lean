import Mathlib.Tactic.SplitIfs
import Playback.Json.Token
import Playback.Proofs.Json.Decimals
import Playback.Proofs.Json.Readers

namespace Playback.Json

namespace Quoted

open Text

/-- The letters between two quotes. A letter stands for itself or is escaped. -/
inductive Inner : List Char → Prop where
  | done : Inner []
  | plain {letter : Char} {rest : List Char} (quote : letter ≠ '"') (backslash : letter ≠ '\\')
      (shown : ¬ letter.toNat < 0x20) (others : Inner rest) : Inner (letter :: rest)
  | escape {letter : Char} {rest : List Char}
      (known : letter ∈ ['"', '\\', '/', 'b', 'f', 'n', 'r', 't']) (others : Inner rest) :
      Inner ('\\' :: letter :: rest)
  | unit {first second third fourth : Char} {rest : List Char}
      (digits : ∀ digit ∈ [first, second, third, fourth], (hexValue? digit).isSome = true)
      (others : Inner rest) : Inner ('\\' :: 'u' :: first :: second :: third :: fourth :: rest)

theorem escaped?_isSome_iff {letter : Char} :
    (escaped? letter).isSome = true ↔ letter ∈ ['"', '\\', '/', 'b', 'f', 'n', 'r', 't'] := by
  unfold escaped?
  split <;> simp_all

theorem utf8Size_of_hexValue? {digit : Char} (known : (hexValue? digit).isSome = true) :
    digit.utf8Size = 1 := by
  have small : digit.toNat ≤ 127 := by
    unfold hexValue? at known
    split_ifs at known with decimal lower upper
    · exact Nat.le_trans (show digit.toNat ≤ '9'.toNat from decimal.2) (by decide)
    · exact Nat.le_trans (show digit.toNat ≤ 'f'.toNat from lower.2) (by decide)
    · exact Nat.le_trans (show digit.toNat ≤ 'F'.toNat from upper.2) (by decide)
    · contradiction
  exact Char.utf8Size_eq_one_iff.mpr small

/-- Four digits are a unit, and nothing after them is touched. -/
theorem codeUnit_of_digits {first second third fourth : Char}
    (digits : ∀ digit ∈ [first, second, third, fourth], (hexValue? digit).isSome = true) :
    ∃ unit, ∀ rest, codeUnit (first :: second :: third :: fourth :: rest) = .ok unit := by
  have known (digit : Char) (member : digit ∈ [first, second, third, fourth]) :
      ∃ value, hexValue? digit = some value ∧ digit.utf8Size = 1 := by
    obtain ⟨value, same⟩ := Option.isSome_iff_exists.mp (digits digit member)
    exact ⟨value, same, utf8Size_of_hexValue? (digits digit member)⟩
  obtain ⟨a, sameFirst, sizeFirst⟩ := known first (by simp)
  obtain ⟨b, sameSecond, sizeSecond⟩ := known second (by simp)
  obtain ⟨c, sameThird, sizeThird⟩ := known third (by simp)
  obtain ⟨d, sameFourth, sizeFourth⟩ := known fourth (by simp)
  refine ⟨((a * 16 + b) * 16 + c) * 16 + d, fun rest => ?_⟩
  have size : (String.ofList [first, second, third, fourth]).utf8ByteSize = 4 := by
    simp [String.ofList_cons, String.utf8ByteSize_append, sizeFirst, sizeSecond, sizeThird,
      sizeFourth]
  simp only [codeUnit, List.take_succ_cons, List.take_zero, size, Nat.lt_irrefl, if_false,
    List.map_cons, List.map_nil, sameFirst, sameSecond, sameThird, sameFourth]

theorem digits_of_codeUnit {letters : List Char} {unit : Nat}
    (found : codeUnit letters = .ok unit) :
    ∃ first second third fourth rest, letters = first :: second :: third :: fourth :: rest ∧
      ∀ digit ∈ [first, second, third, fourth], (hexValue? digit).isSome = true := by
  simp only [codeUnit] at found
  split at found
  · contradiction
  · split at found
    · rename_i a b c d values
      obtain ⟨first, others, four, sameFirst, values⟩ := List.map_eq_cons_iff.mp values
      obtain ⟨second, others, rfl, sameSecond, values⟩ := List.map_eq_cons_iff.mp values
      obtain ⟨third, others, rfl, sameThird, values⟩ := List.map_eq_cons_iff.mp values
      obtain ⟨fourth, others, rfl, sameFourth, values⟩ := List.map_eq_cons_iff.mp values
      obtain rfl := List.map_eq_nil_iff.mp values
      refine ⟨first, second, third, fourth, letters.drop 4, ?_, ?_⟩
      · conv_lhs => rw [← List.take_append_drop 4 letters, four]
        rfl
      · simp [sameFirst, sameSecond, sameThird, sameFourth]
    · contradiction

/-- A string is skipped up to its closing quote. -/
theorem skip_of_inner {letters : List Char} (inner : Inner letters) (rest : List Char) :
    skip (letters ++ '"' :: rest) = .ok rest := by
  induction inner with
  | done => simp [skip]
  | @plain letter others quote backslash shown _ inductionHypothesis =>
      exact ((stands_plain quote backslash shown).skip _).trans inductionHypothesis
  | @escape letter others known _ inductionHypothesis =>
      obtain ⟨value, found⟩ := Option.isSome_iff_exists.mp (escaped?_isSome_iff.mpr known)
      exact ((stands_short found).skip _).trans inductionHypothesis
  | @unit first second third fourth others digits _ inductionHypothesis =>
      obtain ⟨unit, found⟩ := codeUnit_of_digits digits
      simpa [skip, found] using inductionHypothesis

theorem inner_of_skip {letters rest : List Char} (skipped : skip letters = .ok rest) :
    ∃ front, letters = front ++ '"' :: rest ∧ Inner front := by
  fun_induction skip letters with
  | case1 => contradiction
  | case2 rest =>
      obtain rfl := Except.ok.inj skipped
      exact ⟨[], rfl, .done⟩
  | case3 => contradiction
  | case4 => contradiction
  | case5 letters unit found inductionHypothesis =>
      obtain ⟨first, second, third, fourth, others, rfl, digits⟩ := digits_of_codeUnit found
      obtain ⟨front, same, inner⟩ := inductionHypothesis skipped
      obtain rfl : others = front ++ '"' :: rest := same
      exact ⟨_, rfl, .unit digits inner⟩
  | case6 => contradiction
  | case7 escape letters other letter known inductionHypothesis =>
      obtain ⟨front, rfl, inner⟩ := inductionHypothesis skipped
      exact ⟨_, rfl, .escape (escaped?_isSome_iff.mp (by rw [known]; rfl)) inner⟩
  | case8 => contradiction
  | case9 letter letters quote backslash shown inductionHypothesis =>
      obtain ⟨front, rfl, inner⟩ := inductionHypothesis skipped
      exact ⟨_, rfl, .plain quote backslash shown inner⟩

/-- The second half of a surrogate pair is found or missed whatever follows the string. -/
theorem lowSurrogate_of_inner {letters : List Char} (inner : Inner letters) :
    (∃ flaw, ∀ rest, lowSurrogate (letters ++ '"' :: rest) = .error flaw) ∨
      ∃ first second third fourth others unit, Inner others ∧
        letters = '\\' :: 'u' :: first :: second :: third :: fourth :: others ∧
        ∀ rest, lowSurrogate (letters ++ '"' :: rest) = .ok unit := by
  cases inner with
  | done => exact .inl ⟨.unfinishedPair, fun rest => by simp [lowSurrogate]⟩
  | plain quote backslash shown others =>
      exact .inl ⟨.unfinishedPair, fun rest => by simp [lowSurrogate]⟩
  | @escape letter others known inner =>
      have other : letter ≠ 'u' := by
        rintro rfl
        contradiction
      exact .inl ⟨.unfinishedPair, fun rest => by simp [lowSurrogate]⟩
  | @unit first second third fourth others digits inner =>
      obtain ⟨unit, found⟩ := codeUnit_of_digits digits
      cases low : isLowSurrogate unit with
      | true =>
          exact .inr ⟨first, second, third, fourth, others, unit, inner, rfl, fun rest => by
            simp [lowSurrogate, found, low]⟩
      | false => exact .inl ⟨.loneSurrogate, fun rest => by simp [lowSurrogate, found, low]⟩

/-- A string is read alike whatever follows it. -/
theorem read_of_inner {letters : List Char} (inner : Inner letters) (rest : List Char) :
    read (letters ++ '"' :: rest) = read (letters ++ ['"']) := by
  -- The induction is on the length, as a surrogate pair takes two units at once.
  induction size : letters.length using Nat.strongRecOn generalizing letters with
  | ind length inductionHypothesis =>
    have shorter {others : List Char} (inner : Inner others) (less : others.length < length) :
        read (others ++ '"' :: rest) = read (others ++ ['"']) :=
      inductionHypothesis others.length less inner rfl
    cases inner with
    | done => simp [read]
    | @plain letter others quote backslash shown inner =>
        have same := shorter inner (by simp only [List.length_cons] at size; omega)
        change read ([letter] ++ (others ++ '"' :: rest)) = read ([letter] ++ (others ++ ['"']))
        rw [(stands_plain quote backslash shown).read, (stands_plain quote backslash shown).read,
          same]
    | @escape letter others known inner =>
        have same := shorter inner (by simp only [List.length_cons] at size; omega)
        obtain ⟨value, found⟩ := Option.isSome_iff_exists.mp (escaped?_isSome_iff.mpr known)
        change read (['\\', letter] ++ (others ++ '"' :: rest)) =
          read (['\\', letter] ++ (others ++ ['"']))
        rw [(stands_short found).read, (stands_short found).read, same]
    | @unit first second third fourth others digits inner =>
        obtain ⟨unit, found⟩ := codeUnit_of_digits digits
        have same := shorter inner (by simp only [List.length_cons] at size; omega)
        cases low : isLowSurrogate unit with
        | true => simp [read, codePoint, found, low]
        | false =>
            cases high : isHighSurrogate unit with
            | false => simp [read, codePoint, found, low, high, same]
            | true =>
                rcases lowSurrogate_of_inner inner with
                  ⟨flaw, missed⟩ | ⟨_, _, _, _, tail, half, ends, rfl, paired⟩
                · simp [read, codePoint, found, low, high, missed]
                · have same := shorter ends (by simp only [List.length_cons] at size; omega)
                  simp only [List.cons_append] at paired
                  simp [read, codePoint, found, low, high, paired, same]

/-- A string is scanned to its closing quote, as what it is alone. -/
theorem scan_of_inner {letters : List Char} (inner : Inner letters) (rest : List Char) :
    scan (letters ++ '"' :: rest) = ((scan (letters ++ ['"'])).1, rest) ∧
      ∀ reading skipping, (scan (letters ++ ['"'])).1 ≠ .broken reading skipping := by
  rw [scan, scan, read_of_inner inner rest, skip_of_inner inner, skip_of_inner inner]
  cases read (letters ++ ['"']) <;> simp

theorem inner_of_scan {letters rest : List Char} {quoted : Quoted}
    (found : scan letters = (quoted, rest))
    (sound : ∀ reading skipping, quoted ≠ .broken reading skipping) :
    ∃ front, letters = front ++ '"' :: rest ∧ Inner front := by
  refine inner_of_skip ?_
  rw [scan] at found
  cases skipped : skip letters with
  | ok after => cases reading : read letters <;> simp_all
  | error flaw =>
      cases reading : read letters <;>
        exact absurd (Prod.mk.inj (by simpa [skipped, reading] using found)).1.symm (sound _ _)

end Quoted

namespace Numeral

variable {letters rest : List Char}

/-- A fraction may be left out. -/
inductive IsFraction : List Char → Prop where
  | none : IsFraction []
  | digits {letters : List Char} (all : AreDigits letters) : IsFraction ('.' :: letters)

/-- An exponent may be left out, and so may its sign. -/
inductive IsExponent : List Char → Prop where
  | none : IsExponent []
  | digits {mark : Char} {sign letters : List Char} (known : mark ∈ ['e', 'E'])
      (signed : sign ∈ [[], ['+'], ['-']]) (all : AreDigits letters) :
      IsExponent (mark :: (sign ++ letters))

/-- The letters of a number. -/
inductive IsNumeral : List Char → Prop where
  | parts {sign whole fraction exponent : List Char} (signed : sign ∈ [[], ['-']])
      (front : IsWhole whole) (middle : IsFraction fraction) (back : IsExponent exponent) :
      IsNumeral (sign ++ (whole ++ (fraction ++ exponent)))

/-- The next letter is no digit. -/
abbrev Stops (rest : List Char) : Prop := (rest.head?.map isDigit).getD false = false

theorem areDigits_of_someDigits {digits : List Nat}
    (found : someDigits letters = .ok (digits, rest)) :
    ∃ front, letters = front ++ rest ∧ AreDigits front ∧ Stops rest := by
  rw [someDigits.eq_def] at found
  split at found
  · contradiction
  · rename_i letter others
    split at found
    · rename_i digit
      obtain ⟨_, rfl⟩ := Prod.mk.inj (Except.ok.inj found)
      refine ⟨(letter :: others).takeWhile isDigit, List.takeWhile_append_dropWhile.symm,
        ⟨by simp [digit], fun letter member => List.mem_takeWhile_imp member⟩, ?_⟩
      rw [afterDigits, Stops]
      cases after : (letter :: others).dropWhile isDigit with
      | nil => rfl
      | cons next tail =>
          have stop := List.head_dropWhile_not (p := isDigit) (by rw [after]; simp)
          simpa [after] using stop
    · contradiction

theorem isWhole_of_readWhole {digits : List Nat} (found : readWhole letters = .ok (digits, rest)) :
    ∃ front, letters = front ++ rest ∧ IsWhole front ∧ Stops rest := by
  rw [readWhole.eq_def] at found
  split at found
  · rename_i others
    split at found
    · contradiction
    · rename_i stop
      obtain ⟨_, rfl⟩ := Prod.mk.inj (Except.ok.inj found)
      exact ⟨['0'], rfl, ⟨⟨nofun, List.forall_mem_singleton.mpr rfl⟩, .inl rfl⟩,
        Bool.eq_false_iff.mpr stop⟩
  · rename_i other
    obtain ⟨front, rfl, digits, stop⟩ := areDigits_of_someDigits found
    refine ⟨front, rfl, ⟨digits, .inr ?_⟩, stop⟩
    rintro others rfl
    exact other (others ++ rest) rfl

theorem isFraction_of_readFraction {digits : Option (List Nat)} (stop : Stops letters)
    (found : readFraction letters = .ok (digits, rest)) :
    ∃ front, letters = front ++ rest ∧ IsFraction front ∧ Stops rest := by
  rw [readFraction.eq_def] at found
  split at found
  · obtain ⟨⟨_, _⟩, taken, same⟩ := map_eq_ok.mp found
    obtain ⟨_, rfl⟩ := Prod.mk.inj same
    obtain ⟨front, rfl, digits, stop⟩ := areDigits_of_someDigits taken
    exact ⟨'.' :: front, rfl, .digits digits, stop⟩
  · obtain ⟨_, rfl⟩ := Prod.mk.inj (Except.ok.inj found)
    exact ⟨[], rfl, .none, stop⟩

theorem sign_eq (letters : List Char) :
    ∃ front, front ∈ [[], ['+'], ['-']] ∧ letters = front ++ (sign letters).2 := by
  rw [sign.eq_def]
  split
  · exact ⟨['+'], by simp, rfl⟩
  · exact ⟨['-'], by simp, rfl⟩
  · exact ⟨[], by simp, rfl⟩

theorem isExponent_of_readExponent {exponent : Option Int} (stop : Stops letters)
    (found : readExponent letters = .ok (exponent, rest)) :
    ∃ front, letters = front ++ rest ∧ IsExponent front ∧ Stops rest := by
  rw [readExponent.eq_def] at found
  split at found
  · rename_i mark others
    split at found
    · rename_i known
      obtain ⟨signed, member, split⟩ := sign_eq others
      generalize sign others = pair at found split
      obtain ⟨negative, tail⟩ := pair
      obtain ⟨⟨_, _⟩, taken, same⟩ := map_eq_ok.mp found
      obtain ⟨_, rfl⟩ := Prod.mk.inj same
      obtain ⟨front, rfl, digits, stop⟩ := areDigits_of_someDigits taken
      refine ⟨mark :: (signed ++ front), ?_, .digits (by simpa using known) member digits, stop⟩
      rw [split, List.cons_append, List.append_assoc]
    · obtain ⟨_, rfl⟩ := Prod.mk.inj (Except.ok.inj found)
      exact ⟨[], rfl, .none, stop⟩
  · obtain ⟨_, rfl⟩ := Prod.mk.inj (Except.ok.inj found)
    exact ⟨[], rfl, .none, stop⟩

/-- What is read as a number is one, and its digits have been read to their end. -/
theorem isNumeral_of_read {numeral : Numeral} (found : read letters = .ok (numeral, rest)) :
    ∃ front, letters = front ++ rest ∧ IsNumeral front ∧ Stops rest := by
  have unsigned {negative : Bool} {letters : List Char} (sign : List Char)
      (signed : sign ∈ [[], ['-']])
      (found : unsigned negative letters = .ok (numeral, rest)) :
      ∃ front, letters = front ++ rest ∧ IsNumeral (sign ++ front) ∧ Stops rest := by
    rw [Numeral.unsigned] at found
    obtain ⟨⟨_, middle⟩, one, found⟩ := bind_eq_ok.mp found
    obtain ⟨⟨_, last⟩, two, found⟩ := bind_eq_ok.mp found
    obtain ⟨⟨_, after⟩, three, found⟩ := bind_eq_ok.mp found
    obtain ⟨_, rfl⟩ := Prod.mk.inj (Except.ok.inj found)
    obtain ⟨whole, rfl, front, stop⟩ := isWhole_of_readWhole one
    obtain ⟨fraction, rfl, middle, stop⟩ := isFraction_of_readFraction stop two
    obtain ⟨exponent, rfl, back, stop⟩ := isExponent_of_readExponent stop three
    exact ⟨_, by simp only [List.append_assoc], .parts signed front middle back, stop⟩
  rw [read.eq_def] at found
  split at found
  · obtain ⟨front, rfl, numeral, stop⟩ := unsigned ['-'] (by simp) found
    exact ⟨_, rfl, numeral, stop⟩
  · exact unsigned [] (by simp) found

theorem IsExponent.stops (exponent : IsExponent letters) :
    Stops letters ∧ ∀ rest, letters ≠ '.' :: rest := by
  cases exponent with
  | none => exact ⟨rfl, nofun⟩
  | digits known signed all =>
      simp only [List.mem_cons, List.not_mem_nil, or_false] at known
      rcases known with rfl | rfl <;> exact ⟨rfl, nofun⟩

theorem sign_of_mem {signed : List Char} (member : signed ∈ [[], ['+'], ['-']])
    (digits : AreDigits letters) : (sign (signed ++ letters)).2 = letters := by
  simp only [List.mem_cons, List.not_mem_nil, or_false] at member
  rcases member with rfl | rfl | rfl
  · obtain ⟨letter, others, rfl⟩ := List.exists_cons_of_ne_nil digits.given
    have digit := digits.all letter List.mem_cons_self
    rw [List.nil_append, sign.eq_def]
    split
    · rename_i same
      rw [(List.cons.inj same).1] at digit
      contradiction
    · rename_i same
      rw [(List.cons.inj same).1] at digit
      contradiction
    · rfl
  · rfl
  · rfl

theorem readExponent_of_isExponent (exponent : IsExponent letters) :
    ∃ value, readExponent letters = .ok (value, []) := by
  cases exponent with
  | none => exact ⟨none, rfl⟩
  | @digits mark signed letters known member all =>
      have taken := @someDigits_of_areDigits _ [] all rfl
      have tail := sign_of_mem member all
      rw [List.append_nil] at taken
      rw [readExponent, if_pos (by simpa using known)]
      generalize sign (signed ++ letters) = pair at tail
      obtain ⟨negative, after⟩ := pair
      obtain rfl : after = letters := tail
      simp only [taken]
      exact ⟨_, rfl⟩

theorem readFraction_of_isFraction {fraction exponent : List Char} (middle : IsFraction fraction)
    (back : IsExponent exponent) :
    ∃ value, readFraction (fraction ++ exponent) = .ok (value, exponent) := by
  cases middle with
  | none =>
      refine ⟨none, ?_⟩
      rw [List.nil_append, readFraction]
      exact back.stops.2
  | digits all =>
      rw [List.cons_append, readFraction, someDigits_of_areDigits all back.stops.1]
      exact ⟨_, rfl⟩

/-- A number is read in full. -/
theorem read_of_isNumeral (numeral : IsNumeral letters) :
    ∃ value, read letters = .ok (value, []) := by
  obtain ⟨signed, front, middle, back⟩ := numeral
  rename_i sign whole fraction exponent
  have stop : Stops (fraction ++ exponent) := by
    cases middle with
    | none => exact back.stops.1
    | digits all => rfl
  obtain ⟨tenths, two⟩ := readFraction_of_isFraction middle back
  obtain ⟨power, three⟩ := readExponent_of_isExponent back
  have unsigned (negative : Bool) : ∃ value,
      unsigned negative (whole ++ (fraction ++ exponent)) = .ok (value, []) := by
    rw [Numeral.unsigned, readWhole_of_isWhole front stop]
    simp only [bind, Except.bind, two, three]
    exact ⟨_, rfl⟩
  simp only [List.mem_cons, List.not_mem_nil, or_false] at signed
  rcases signed with rfl | rfl
  · obtain ⟨letter, others, rfl⟩ := List.exists_cons_of_ne_nil front.given
    have digit := front.all letter List.mem_cons_self
    rw [List.nil_append, read]
    · exact unsigned false
    · rintro rest same
      rw [(List.cons.inj same).1] at digit
      contradiction
  · exact unsigned true

/-- A number is scanned to its end, as what it is alone. -/
theorem scan_of_isNumeral (numeral : IsNumeral letters) (ends : Ends rest) :
    scan (letters ++ rest) = ((scan letters).1, rest) ∧
      ∀ flaw, (scan letters).1 ≠ .broken flaw := by
  obtain ⟨value, found⟩ := read_of_isNumeral numeral
  rw [scan, scan, read_append found ends, found]
  cases known : value.number? <;> simp [known]

theorem isNumeral_of_scan {written : Written} (found : scan letters = (written, rest))
    (sound : ∀ flaw, written ≠ .broken flaw) :
    ∃ front, letters = front ++ rest ∧ IsNumeral front ∧ Stops rest := by
  rw [scan] at found
  cases taken : read letters with
  | error flaw =>
      simp only [taken] at found
      exact absurd (Prod.mk.inj found).1.symm (sound flaw)
  | ok pair =>
      obtain ⟨numeral, after⟩ := pair
      have same : after = rest := by
        cases value : numeral.number? <;> simp_all
      exact isNumeral_of_read (same ▸ taken)

/-- A number starts with a sign or a digit. -/
theorem IsNumeral.starts (numeral : IsNumeral letters) :
    ∃ letter others, letters = letter :: others ∧ (letter = '-' ∨ isDigit letter = true) := by
  obtain ⟨signed, front, _, _⟩ := numeral
  obtain ⟨letter, others, rfl⟩ := List.exists_cons_of_ne_nil front.given
  simp only [List.mem_cons, List.not_mem_nil, or_false] at signed
  rcases signed with rfl | rfl
  · exact ⟨letter, _, rfl, .inr (front.all letter List.mem_cons_self)⟩
  · exact ⟨'-', _, rfl, .inl rfl⟩

end Numeral

namespace Token

/-- A reader may accept the token. -/
def Sound : Token → Prop
  | .stray _ | .number (.broken _) | .text (.broken _ _) => False
  | _ => True

/-- The letters of a token. What a number or a string stands for is what is read of it alone. -/
inductive Lexeme : Token → List Char → Prop where
  | openList : Lexeme .openList ['[']
  | closeList : Lexeme .closeList [']']
  | openObject : Lexeme .openObject ['\x7b']
  | closeObject : Lexeme .closeObject ['\x7d']
  | comma : Lexeme .comma [',']
  | colon : Lexeme .colon [':']
  | null : Lexeme .null ['n', 'u', 'l', 'l']
  | true : Lexeme (.boolean Bool.true) ['t', 'r', 'u', 'e']
  | false : Lexeme (.boolean Bool.false) ['f', 'a', 'l', 's', 'e']
  | number {letters : List Char} (numeral : Numeral.IsNumeral letters) :
      Lexeme (.number (Numeral.scan letters).1) letters
  | text {letters : List Char} (inner : Quoted.Inner letters) :
      Lexeme (.text (Quoted.scan (letters ++ ['"'])).1) ('"' :: (letters ++ ['"']))

/-- The text is the tokens in a row with blanks between them. No number is followed by a letter that
would continue it. -/
inductive Spelling : List Token → List Char → Prop where
  | done : Spelling [] []
  | blank {letter : Char} {tokens : List Token} {letters : List Char}
      (known : letter ∈ [' ', '\n', '\t', '\r']) (others : Spelling tokens letters) :
      Spelling tokens (letter :: letters)
  | token {token : Token} {front rest : List Char} {tokens : List Token}
      (lexeme : Lexeme token front) (ends : ∀ written, token = .number written → Numeral.Ends rest)
      (others : Spelling tokens rest) : Spelling (token :: tokens) (front ++ rest)

/-- No blank continues a number. -/
theorem continues_of_blank {letter : Char} (known : letter ∈ [' ', '\n', '\t', '\r']) :
    Numeral.continues letter = Bool.false := by
  simp only [List.mem_cons, List.not_mem_nil, or_false] at known
  rcases known with rfl | rfl | rfl | rfl <;> rfl

/-- A blank may come after the last token. -/
theorem Spelling.append_blank {letter : Char} {tokens : List Token} {letters : List Char}
    (spelling : Spelling tokens letters) (known : letter ∈ [' ', '\n', '\t', '\r']) :
    Spelling tokens (letters ++ [letter]) := by
  induction spelling with
  | done => exact .blank known .done
  | blank first _ inductionHypothesis => exact .blank first inductionHypothesis
  | @token token front rest tokens lexeme ends _ inductionHypothesis =>
      rw [List.append_assoc]
      refine .token lexeme (fun written same => ?_) inductionHypothesis
      cases rest with
      | nil =>
          intro next first
          rw [← Option.some.inj first]
          exact continues_of_blank known
      | cons other rest => exact ends written same

section Scanning

variable {letter : Char} {letters front rest : List Char} {token : Token} {tokens : List Token}

theorem isBlank_iff : isBlank letter = Bool.true ↔ letter ∈ [' ', '\n', '\t', '\r'] := by
  simp [isBlank, or_assoc]

/-- A lexeme is the next token, and nothing after it is touched. -/
theorem next_of_lexeme (lexeme : Lexeme token front)
    (ends : ∀ written, token = .number written → Numeral.Ends rest) :
    token.Sound ∧ ∃ letter others, front = letter :: others ∧ isBlank letter = Bool.false ∧
      next letter (others ++ rest) = (token, rest) := by
  cases lexeme with
  | openList | closeList | openObject | closeObject | comma | colon | null | true | false =>
      exact ⟨trivial, _, _, rfl, rfl, rfl⟩
  | number numeral =>
      obtain ⟨same, sound⟩ := Numeral.scan_of_isNumeral numeral (ends _ rfl)
      obtain ⟨letter, others, rfl, first⟩ := numeral.starts
      obtain ⟨shown, unmarked, wordless, unquoted⟩ := plain_of_numeric first
      refine ⟨?_, letter, others, rfl, shown, ?_⟩
      · cases written : (Numeral.scan (letter :: others)).1 with
        | broken flaw => exact absurd written (sound flaw)
        | exact _ => trivial
        | tooLarge => trivial
      · have numeric : (decide (letter = '-') || Numeral.isDigit letter) = Bool.true := by
          simpa using first
        rw [List.cons_append] at same
        simp [next, unmarked, wordless, unquoted, numeric, same]
  | @text letters inner =>
      obtain ⟨same, sound⟩ := Quoted.scan_of_inner inner rest
      refine ⟨?_, '"', _, rfl, rfl, ?_⟩
      · cases quoted : (Quoted.scan (letters ++ ['"'])).1 with
        | broken reading skipping => exact absurd quoted (sound reading skipping)
        | plain _ => trivial
        | unpaired _ => trivial
      · rw [List.append_assoc, List.singleton_append]
        simp [next, mark?, word?, same]

theorem eq_append_of_word {expected : List Char} (found : word expected letters = .ok rest) :
    letters = expected ++ rest := by
  fun_induction word expected letters with
  | case1 letters => exact Except.ok.inj found
  | case2 => contradiction
  | case3 letter expected letters inductionHypothesis =>
      rw [List.cons_append, ← inductionHypothesis found]
  | case4 => contradiction

/-- A sound token after the digits of a number does not continue it. -/
theorem ends_of_stops (stop : Numeral.Stops letters) (sound : ∀ token ∈ scan letters, token.Sound) :
    Numeral.Ends letters := by
  intro letter first
  obtain ⟨others, rfl⟩ : ∃ others, letters = letter :: others := by
    cases letters with
    | nil => contradiction
    | cons other others => exact ⟨others, by rw [Option.some.inj first]⟩
  have digit : Numeral.isDigit letter = Bool.false := stop
  by_contra continues
  have mark : letter = '.' ∨ letter = 'e' ∨ letter = 'E' := by
    simp only [Numeral.continues, digit, Bool.false_or, Bool.or_eq_false_iff, beq_eq_false_iff_ne]
      at continues
    tauto
  have stray : next letter others = (.stray .expectedValue, []) ∧ isBlank letter = Bool.false := by
    rcases mark with rfl | rfl | rfl <;> exact ⟨rfl, rfl⟩
  rw [scan, if_neg (Bool.eq_false_iff.mp stray.2), stray.1] at sound
  exact sound _ List.mem_cons_self

/-- A sound token before others is a lexeme. -/
theorem lexeme_of_next (found : next letter letters = (token, rest)) (sound : token.Sound)
    (others : ∀ token ∈ scan rest, token.Sound) :
    ∃ front, letter :: letters = front ++ rest ∧ Lexeme token front ∧
      ∀ written, token = .number written → Numeral.Ends rest := by
  unfold next at found
  split at found
  · rename_i mark known
    obtain ⟨rfl, rfl⟩ := Prod.mk.inj found
    refine ⟨[letter], rfl, ?_⟩
    revert known
    unfold mark?
    split <;> rintro ⟨⟩ <;> exact ⟨by constructor, nofun⟩
  · split at found
    · rename_i expected word known
      split at found
      · rename_i after spelled
        obtain ⟨rfl, rfl⟩ := Prod.mk.inj found
        rw [eq_append_of_word spelled]
        refine ⟨letter :: expected, rfl, ?_⟩
        revert known
        unfold word?
        split <;> rintro ⟨⟩ <;> exact ⟨by constructor, nofun⟩
      · obtain ⟨rfl, _⟩ := Prod.mk.inj found
        exact sound.elim
    · split at found
      · rename_i quote
        subst quote
        cases scanned : Quoted.scan letters with
        | mk quoted after =>
            rw [scanned] at found
            obtain ⟨rfl, rfl⟩ := Prod.mk.inj found
            obtain ⟨front, rfl, inner⟩ := Quoted.inner_of_scan scanned (by
              rintro reading skipping rfl
              exact sound)
            obtain ⟨same, _⟩ := Quoted.scan_of_inner inner after
            obtain ⟨rfl, _⟩ := Prod.mk.inj (same.symm.trans scanned)
            exact ⟨_, by simp, .text inner, nofun⟩
      · split at found
        · cases scanned : Numeral.scan (letter :: letters) with
          | mk written after =>
              rw [scanned] at found
              obtain ⟨rfl, rfl⟩ := Prod.mk.inj found
              obtain ⟨front, parts, numeral, stop⟩ := Numeral.isNumeral_of_scan scanned (by
                rintro flaw rfl
                exact sound)
              have ends := ends_of_stops stop others
              obtain ⟨same, _⟩ := Numeral.scan_of_isNumeral numeral ends
              rw [parts, same] at scanned
              obtain ⟨rfl, _⟩ := Prod.mk.inj scanned
              exact ⟨front, parts, .number numeral, fun _ _ => ends⟩
        · obtain ⟨rfl, _⟩ := Prod.mk.inj found
          exact sound.elim

/-- The tokens of a spelling are found, and all of them are sound. -/
theorem scan_of_spelling (spelling : Spelling tokens letters) :
    scan letters = tokens ∧ ∀ token ∈ tokens, token.Sound := by
  induction spelling with
  | done => exact ⟨by rw [scan], nofun⟩
  | blank known _ inductionHypothesis =>
      rwa [scan_blank (isBlank_iff.mpr known)]
  | @token token front rest tokens lexeme ends _ inductionHypothesis =>
      obtain ⟨sound, letter, others, rfl, shown, found⟩ := next_of_lexeme lexeme ends
      refine ⟨?_, List.forall_mem_cons.mpr ⟨sound, inductionHypothesis.2⟩⟩
      rw [List.cons_append, scan, if_neg (Bool.eq_false_iff.mp shown), found]
      exact congrArg (token :: ·) inductionHypothesis.1

/-- Sound tokens are found in a spelling of them only. -/
theorem spelling_of_scan (sound : ∀ token ∈ scan letters, token.Sound) :
    Spelling (scan letters) letters := by
  fun_induction scan letters with
  | case1 => exact .done
  | case2 letter letters blank inductionHypothesis =>
      exact .blank (isBlank_iff.mp blank) (inductionHypothesis sound)
  | case3 letter letters shown rest inductionHypothesis =>
      obtain ⟨first, others⟩ := List.forall_mem_cons.mp sound
      obtain ⟨front, parts, lexeme, ends⟩ := @lexeme_of_next letter letters rest _ rfl first others
      rw [parts]
      exact .token lexeme ends (inductionHypothesis others)

end Scanning

end Token

end Playback.Json
