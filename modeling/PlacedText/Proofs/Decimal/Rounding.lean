import Mathlib.Data.List.DropRight
import Mathlib.Data.Real.Basic
import PlacedText.Decimal.Trimmed
import PlacedText.Proofs.Content.Literal
import PlacedText.Proofs.Text.Utf8

/-! # Short decimals as numbers

The digits of a short decimal are those of the double rounded to so many places
(`abs_roundedUnits_sub_le`), and the zeros that are left out at its end count for nothing
(`exists_spelled_trimmed`). So a finite double is written as a number that is at most half of the
last place away from it (`exists_rounds_trimmed`).
-/

namespace PlacedText.Decimal

open Content (Literal spelled spelled_append digitByte)

/-! ## Rounding -/

/-- Rounding goes to a whole number that is at most one half away. -/
theorem roundHalfEven_near (num : Nat) {den : Nat} (positive : 0 < den) :
    2 * num ≤ 2 * roundHalfEven num den * den + den ∧
      2 * roundHalfEven num den * den ≤ 2 * num + den := by
  have divided : den * (num / den) + num % den = num := Nat.div_add_mod num den
  have small : num % den < den := Nat.mod_lt num positive
  have down : 2 * (num / den) * den = 2 * (den * (num / den)) := by ring
  have up : 2 * (num / den + 1) * den = 2 * (den * (num / den)) + 2 * den := by ring
  unfold roundHalfEven
  dsimp only
  split_ifs <;> omega

/-- The units of a double are at most one half away from its magnitude. With an exponent that is not
negative they are exact, and otherwise a quotient that is rounded to the nearest. -/
theorem abs_roundedUnits_sub_le (places : Nat) (x : Binary) :
    |(roundedUnits places x : ℝ) - x.significand * 2 ^ x.exponent * 10 ^ places| ≤ 1 / 2 := by
  obtain ⟨negative, significand, exponent⟩ := x
  unfold roundedUnits
  cases exponent with
  | ofNat power =>
    have whole : ((significand * Nat.pow 2 power * Nat.pow 10 places : ℕ) : ℝ) =
        significand * 2 ^ (power : ℤ) * 10 ^ places := by
      push_cast [Nat.pow_eq]
      rw [zpow_natCast]
    dsimp only
    rw [whole, Int.ofNat_eq_natCast, sub_self, abs_zero]
    norm_num
  | negSucc power =>
    dsimp only [Nat.pow_eq]
    generalize scaled : significand * 10 ^ places = num
    have positive : 0 < 2 ^ (power + 1) := by positivity
    obtain ⟨below, above⟩ := roundHalfEven_near num positive
    have exact : (significand : ℝ) * 2 ^ Int.negSucc power * 10 ^ places =
        num / 2 ^ (power + 1) := by
      rw [← scaled, zpow_negSucc]
      push_cast
      ring
    rw [exact, abs_le]
    have divisor : (0 : ℝ) < 2 ^ (power + 1) := by positivity
    have below' : (2 : ℝ) * num ≤ 2 * roundHalfEven num (2 ^ (power + 1)) * 2 ^ (power + 1) +
        2 ^ (power + 1) := by
      exact_mod_cast below
    have above' : (2 : ℝ) * roundHalfEven num (2 ^ (power + 1)) * 2 ^ (power + 1) ≤
        2 * num + 2 ^ (power + 1) := by
      exact_mod_cast above
    constructor
    · rw [neg_le_sub_iff_le_add, div_le_iff₀ divisor]
      linarith
    · rw [sub_le_iff_le_add, ← sub_le_iff_le_add', le_div_iff₀ divisor]
      linarith

/-! ## Digits -/

def digitChar (digit : Fin 10) : Char := Nat.digitChar digit.val

/-- The digits of a count spell it, without a zero in front. -/
theorem exists_digits_repr (count : Nat) :
    ∃ digits : List (Fin 10), digits ≠ [] ∧ (Nat.repr count).toList = digits.map digitChar ∧
      spelled digits = count ∧ (count = 0 → digits = [0]) := by
  rw [Nat.toList_repr]
  induction count using Nat.strong_induction_on with
  | _ count ih =>
    rw [Nat.toDigits_eq_if (by decide)]
    by_cases single : count < 10
    · rw [if_pos single]
      refine ⟨[⟨count, single⟩], by simp, rfl, by simp [spelled], ?_⟩
      rintro rfl
      rfl
    · have smaller : count / 10 < count := by omega
      obtain ⟨digits, -, written, spells, -⟩ := ih (count / 10) smaller
      have last : count % 10 < 10 := Nat.mod_lt count (by decide)
      rw [if_neg single, written]
      refine ⟨digits ++ [⟨count % 10, last⟩], by simp, by simp [digitChar], ?_, ?_⟩
      · rw [spelled_append, spells]
        simp only [spelled, List.map_cons, List.map_nil, List.reverse_singleton, List.length_cons,
          List.length_nil, Nat.ofDigits_singleton]
        omega
      · intro zero
        omega

theorem spelled_replicate_zero (count : Nat) : spelled (List.replicate count 0) = 0 := by
  induction count with
  | zero => rfl
  | succ count ih => rw [List.replicate_succ', spelled_append, ih]; rfl

/-- A count that fits is written with so many digits, which spell it. -/
theorem exists_digits_padded {width count : Nat} (some : width ≠ 0) (fits : count < 10 ^ width) :
    ∃ digits : List (Fin 10), digits.length = width ∧
      (padded width count).toList = digits.map digitChar ∧ spelled digits = count := by
  obtain ⟨digits, -, written, spells, -⟩ := exists_digits_repr count
  have short : digits.length ≤ width := by
    have bounded := Nat.toDigits_length 10 count width (by omega) fits
    rw [← Nat.toList_repr, written, List.length_map] at bounded
    exact bounded
  have length : (Nat.repr count).length = digits.length := by
    rw [← String.length_toList, written, List.length_map]
  refine ⟨List.replicate (width - digits.length) 0 ++ digits, ?_, ?_, ?_⟩
  · rw [List.length_append, List.length_replicate]
    omega
  · unfold padded
    rw [String.toList_append, String.toList_ofList, length, written, List.map_append,
      List.map_replicate]
    rfl
  · rw [spelled_append, spelled_replicate_zero, spells]
    omega

/-! ## Zeros at the end -/

/-- What is in front of another character is kept. -/
theorem withoutTrailing_append_cons {c d : Char} (different : d ≠ c) (front back : List Char) :
    withoutTrailing c (front ++ d :: back) = front ++ d :: withoutTrailing c back := by
  have stays : (d :: front.reverse).dropWhile (· == c) = d :: front.reverse := by
    rw [List.dropWhile_cons_of_neg (by simpa using different)]
  unfold withoutTrailing
  rw [List.reverse_append, List.reverse_cons, List.append_assoc, List.singleton_append,
    List.dropWhile_append, stays]
  split
  · next none => simp [List.isEmpty_iff.mp none]
  · simp

theorem digitChar_ne (digit : Fin 10) :
    digitChar digit ≠ '.' ∧ (digitChar digit = '0' ↔ digit.val = 0) := by
  revert digit
  decide

/-- Zeros at the end of digits are removed as digits or as characters alike. -/
theorem withoutTrailing_zero (digits : List (Fin 10)) :
    withoutTrailing '0' (digits.map digitChar) =
      (digits.rdropWhile (·.val == 0)).map digitChar := by
  have same : ((· == '0') ∘ digitChar) = (·.val == 0) := by
    funext digit
    rw [Function.comp_apply, Bool.eq_iff_iff, beq_iff_eq, beq_iff_eq]
    exact (digitChar_ne digit).2
  unfold withoutTrailing List.rdropWhile
  rw [← List.map_reverse, List.dropWhile_map, same, List.map_reverse]

/-- Without the zeros at the end digits spell the same behind the point. -/
theorem spelled_rdropWhile_zero (digits : List (Fin 10)) :
    (spelled (digits.rdropWhile (·.val == 0)) : ℝ) *
        10 ^ (-(digits.rdropWhile (·.val == 0)).length : ℤ) =
      spelled digits * 10 ^ (-digits.length : ℤ) := by
  induction digits using List.reverseRecOn with
  | nil => rfl
  | append_singleton digits last ih =>
    by_cases zero : last.val = 0
    · obtain rfl : last = 0 := Fin.ext zero
      rw [List.rdropWhile_concat_pos _ _ _ rfl, ih, spelled_append, List.length_append]
      have none : spelled [0] = 0 := rfl
      rw [none]
      push_cast [List.length_singleton]
      rw [neg_add, zpow_add₀ (by norm_num)]
      ring
    · rw [List.rdropWhile_concat_neg _ _ _ (by simpa using zero)]

/-- Digits the last of which is no zero do not spell zero. -/
theorem spelled_rdropWhile_ne_zero {digits : List (Fin 10)}
    (visible : digits.rdropWhile (·.val == 0) ≠ []) :
    spelled (digits.rdropWhile (·.val == 0)) ≠ 0 := by
  have last := List.rdropWhile_last_not _ _ visible
  rw [← List.dropLast_concat_getLast visible, spelled_append]
  generalize (digits.rdropWhile (·.val == 0)).getLast visible = digit at last
  have positive : digit.val ≠ 0 := by
    intro zero
    exact last (beq_iff_eq.mpr zero)
  have single : spelled [digit] = digit.val := by simp [spelled]
  rw [single]
  omega

/-! ## The number that is written -/

/-- A number as text. -/
def textOf (literal : Literal) : List Char :=
  (if literal.negative then ['-'] else []) ++ literal.whole.map digitChar ++
    literal.fraction?.elim [] fun digits => '.' :: digits.map digitChar

/-- The text of a literal has the bytes of the literal. -/
theorem encode_ofList_textOf (literal : Literal) :
    Text.Utf8.encode (String.ofList (textOf literal)) = literal.bytes := by
  have digit : ∀ digit : Fin 10,
      String.utf8EncodeChar (digitChar digit) = [digitByte digit] := by decide
  have digits (those : List (Fin 10)) :
      (those.map digitChar).flatMap String.utf8EncodeChar = those.map digitByte := by
    rw [List.flatMap_map, List.map_eq_flatMap]
    simp only [digit]
  unfold Text.Utf8.encode textOf Literal.bytes Literal.unsignedBytes
  rw [String.toList_ofList, List.flatMap_append, List.flatMap_append, digits, List.append_assoc]
  congr 1
  · cases literal.negative <;> rfl
  · congr 1
    cases literal.fraction? with
    | none => rfl
    | some those => exact congrArg _ (digits those)

/-- The number with these digits before and behind the point, where the zeros at the end are left
out, and the point if nothing is behind it. -/
def shortLiteral (negative : Bool) (whole fraction : List (Fin 10)) (visible : whole ≠ []) :
    Literal :=
  let kept := fraction.rdropWhile (·.val == 0)
  ⟨negative, whole, if kept = [] then none else some kept, fun none =>
    visible (List.append_eq_nil_iff.mp none).1⟩

section

variable {negative : Bool} {whole fraction : List (Fin 10)} {visible : whole ≠ []}

/-- A short literal has the fraction without the zeros at its end. -/
theorem fraction_shortLiteral :
    (shortLiteral negative whole fraction visible).fraction = fraction.rdropWhile (·.val == 0) := by
  unfold Literal.fraction shortLiteral
  dsimp only
  split
  · next none => exact none.symm
  · rfl

/-- To remove the zeros at the end of a fraction leaves the value. -/
theorem value_shortLiteral : (shortLiteral negative whole fraction visible).value =
    (if negative then -1 else 1) * (spelled (whole ++ fraction) * 10 ^ (-fraction.length : ℤ)) := by
  have joined : (spelled (whole ++ fraction) : ℝ) * 10 ^ (-fraction.length : ℤ) =
      spelled whole + spelled fraction * 10 ^ (-fraction.length : ℤ) := by
    rw [spelled_append, zpow_neg, zpow_natCast]
    push_cast
    field_simp
  unfold Literal.value
  rw [fraction_shortLiteral, spelled_rdropWhile_zero, joined]
  rfl

/-- The text with zeros and then a point removed at its end is that of the short literal. There is a
digit in front of the point, so no zero of the whole number is touched. -/
theorem textOf_shortLiteral (visible : whole ≠ []) : withoutTrailing '.' (withoutTrailing '0'
      ((if negative then ['-'] else []) ++ whole.map digitChar ++ '.' :: fraction.map digitChar)) =
    textOf (shortLiteral negative whole fraction visible) := by
  have written : textOf (shortLiteral negative whole fraction visible) =
      (if negative then ['-'] else []) ++ whole.map digitChar ++
        (if fraction.rdropWhile (·.val == 0) = [] then []
          else '.' :: (fraction.rdropWhile (·.val == 0)).map digitChar) := by
    unfold textOf shortLiteral
    dsimp only
    congr 1
    split <;> rfl
  rw [withoutTrailing_append_cons (by decide), withoutTrailing_zero, written]
  generalize fraction.rdropWhile (·.val == 0) = kept
  have noPoint (digit : Fin 10) : (digitChar digit == '.') = false :=
    beq_false_of_ne (digitChar_ne digit).1
  rcases List.eq_nil_or_concat kept with rfl | ⟨front, last, rfl⟩
  · obtain ⟨front, last, rfl⟩ := (List.eq_nil_or_concat whole).resolve_left visible
    simp [withoutTrailing, noPoint]
  · simp [withoutTrailing, noPoint]

end

/-- Whether a number that is written is a double rounded to a limited number of places. There is a
digit in front of the point and one behind it, zero has no sign, and the number is at most half of
the last place away from the double. -/
structure Rounds (places : Nat) (x : Float) (literal : Literal) : Prop where
  whole : literal.whole ≠ []
  fraction : literal.fraction? ≠ some []
  short : literal.fraction.length ≤ places
  sign : literal.negative → literal.value ≠ 0
  near : |literal.value - Scalar.ofFloat x| ≤ 10 ^ (-places : ℤ) / 2

section

variable {places : Nat} {x : Float} {parts : Binary} {whole fraction : List (Fin 10)}

/-- The digits of the rounded units are those of a number close to the double. -/
theorem abs_value_shortLiteral_sub_le (visible : whole ≠ [])
    (finite : Binary.ofFloat? x = some parts)
    (fits : fraction.length = places)
    (spells : spelled (whole ++ fraction) = roundedUnits places parts) :
    |(shortLiteral parts.negative whole fraction visible).value - Scalar.ofFloat x| ≤
      10 ^ (-places : ℤ) / 2 := by
  have value : (Scalar.ofFloat x : ℝ) = parts.toReal := by
    change ((Binary.ofFloat? x).map Binary.toReal).getD 0 = parts.toReal
    rw [finite]
    rfl
  have rounded := abs_roundedUnits_sub_le places parts
  have scale : (0 : ℝ) < 10 ^ (-places : ℤ) := by positivity
  have unit : (10 : ℝ) ^ places * 10 ^ (-places : ℤ) = 1 := by
    rw [zpow_neg, zpow_natCast]
    exact mul_inv_cancel₀ (by positivity)
  have difference : (shortLiteral parts.negative whole fraction visible).value - Scalar.ofFloat x =
      (if parts.negative then -1 else 1) *
        ((roundedUnits places parts - parts.significand * 2 ^ parts.exponent * 10 ^ places) *
          10 ^ (-places : ℤ)) := by
    rw [value_shortLiteral, value, Binary.toReal, spells, fits, sub_mul, mul_assoc (_ * _) _ _,
      unit]
    ring
  have signed : |(if parts.negative then -1 else 1 : ℝ)| = 1 := by
    split <;> simp
  rw [difference, abs_mul, signed, one_mul, abs_mul, abs_of_pos scale]
  linarith [mul_le_mul_of_nonneg_right rounded scale.le]

/-- A finite double is written out as its rounded units. -/
theorem toList_fixed (some : places ≠ 0) (finite : Binary.ofFloat? x = .some parts)
    (wholeText : (Nat.repr (roundedUnits places parts / 10 ^ places)).toList =
      whole.map digitChar)
    (fractionText : (padded places (roundedUnits places parts % 10 ^ places)).toList =
      fraction.map digitChar) :
    (fixed places x).toList = (if parts.negative then ['-'] else []) ++ whole.map digitChar ++
      '.' :: fraction.map digitChar := by
  have sign : (if parts.negative then "-" else "").toList =
      if parts.negative then ['-'] else [] := by
    split <;> rfl
  have point : ".".toList = ['.'] := rfl
  unfold fixed writeUnits
  rw [finite]
  dsimp only [Nat.pow_eq]
  rw [if_neg some, String.toList_append, String.toList_append, String.toList_append, sign, point,
    wholeText, fractionText]
  simp only [List.append_assoc, List.cons_append, List.nil_append]

end

/-- A literal is zero just where all its digits are. -/
theorem value_eq_zero_iff {literal : Literal} :
    literal.value = 0 ↔ spelled literal.whole = 0 ∧ spelled literal.fraction = 0 := by
  have scale : (0 : ℝ) < 10 ^ (-literal.fraction.length : ℤ) := by positivity
  have sign : (if literal.negative then -1 else 1 : ℝ) ≠ 0 := by
    split <;> norm_num
  have behind : (0 : ℝ) ≤ spelled literal.fraction * 10 ^ (-literal.fraction.length : ℤ) := by
    positivity
  unfold Literal.value
  rw [mul_eq_zero_iff_left sign, add_eq_zero_iff_of_nonneg (Nat.cast_nonneg _) behind,
    mul_eq_zero_iff_right scale.ne', Nat.cast_eq_zero, Nat.cast_eq_zero]

/-- What is written as zero with a sign is zero. -/
theorem value_of_textOf {literal : Literal} (written : textOf literal = ['-', '0']) :
    literal.value = 0 := by
  have bytes : literal.bytes = [0x2d, 0x30] := by
    rw [← encode_ofList_textOf, written]
    rfl
  have read : some literal.numeral = some ⟨true, 0, 0⟩ := by
    rw [← literal.numeral?_bytes, bytes]
    rfl
  have none : spelled (literal.whole ++ literal.fraction) = 0 :=
    congrArg Numeral.digits (Option.some.inj read)
  rw [spelled_append, Nat.add_eq_zero_iff, Nat.mul_eq_zero] at none
  exact value_eq_zero_iff.mpr ⟨none.1.resolve_right (by positivity), none.2⟩

/-- Zero is written as a single digit. -/
theorem textOf_of_value {negative : Bool} {whole fraction : List (Fin 10)} {visible : whole ≠ []}
    (single : spelled whole = 0 → whole = [0])
    (zero : (shortLiteral negative whole fraction visible).value = 0) :
    textOf (shortLiteral negative whole fraction visible) =
      (if negative then ['-'] else []) ++ ['0'] := by
  obtain ⟨wholeZero, fractionZero⟩ := value_eq_zero_iff.mp zero
  rw [fraction_shortLiteral] at fractionZero
  have none : fraction.rdropWhile (·.val == 0) = [] := by
    by_contra visible
    exact spelled_rdropWhile_ne_zero visible fractionZero
  have digit : whole = [0] := single wholeZero
  subst digit
  unfold textOf shortLiteral
  dsimp only
  rw [if_pos none]
  exact List.append_nil _

/-- **A finite double is written as a number it is rounded to.** The units are split into a whole
number and a fraction of so many places, zeros at the end are removed, and a negative zero is
written without its sign. -/
theorem exists_rounds_trimmed {places : Nat} (some : places ≠ 0) {x : Float}
    (finite : Scalar.isFinite x = true) :
    ∃ literal, Text.Utf8.encode (trimmed places x) = literal.bytes ∧ Rounds places x literal := by
  obtain ⟨parts, ofFloat⟩ := Option.isSome_iff_exists.mp finite
  obtain ⟨whole, visible, wholeText, wholeSpells, wholeZero⟩ :=
    exists_digits_repr (roundedUnits places parts / 10 ^ places)
  obtain ⟨fraction, fits, fractionText, fractionSpells⟩ := exists_digits_padded some
    (Nat.mod_lt (roundedUnits places parts) (by positivity : 0 < 10 ^ places))
  have spells : spelled (whole ++ fraction) = roundedUnits places parts := by
    rw [spelled_append, wholeSpells, fractionSpells, fits]
    exact Nat.div_add_mod' _ _
  have near := abs_value_shortLiteral_sub_le visible ofFloat fits spells
  have encoded := encode_ofList_textOf (shortLiteral parts.negative whole fraction visible)
  unfold trimmed
  dsimp only
  rw [toList_fixed some ofFloat wholeText fractionText, textOf_shortLiteral visible]
  split
  · next zero =>
    refine ⟨⟨false, [0], none, by simp⟩, rfl, by simp, by simp, by simp [Literal.fraction],
      by simp, ?_⟩
    have signed := zero.resolve_right fun none => by
      rw [none] at encoded
      exact Literal.bytes_ne_nil _ encoded.symm
    rw [value_of_textOf signed] at near
    simpa [Literal.value, spelled, Literal.fraction] using near
  · next nonzero =>
    refine ⟨shortLiteral parts.negative whole fraction visible, encoded, visible, ?_, ?_, ?_, near⟩
    · unfold shortLiteral
      dsimp only
      split
      · exact fun same => by cases same
      · next kept => exact fun same => kept (Option.some.inj same)
    · rw [fraction_shortLiteral, ← fits]
      exact (List.rdropWhile_prefix _ _).length_le
    · intro negative zero
      have single : spelled whole = 0 → whole = [0] := fun none => wholeZero (wholeSpells ▸ none)
      have written := textOf_of_value single zero
      rw [if_pos (show parts.negative = true from negative)] at written
      exact nonzero (.inl written)

end PlacedText.Decimal
