import Mathlib
import PlacedText.Proofs.Scalar.Real

/-! # Whole numbers as scalars

A number that is stored as a whole number is read back as a whole number within bounds. That is
exact for every bound that fits into the significand of a double (`Scalar.KeepsWhole`): a whole
number below `2 ^ 53` is a double, and a larger one is rounded to a double that is no less than
`2 ^ 53`.
-/

namespace PlacedText

/-- Scalars that keep whole numbers up to a bound below `2 ^ 53`; larger numbers are above it. -/
class Scalar.KeepsWhole (α : Type) [Scalar α] : Prop where
  clampToInt_ofInt : ∀ bound number : ℕ, bound < 2 ^ 53 →
    clampToInt 0 bound (ofInt number : α) = (Min.min number bound : ℕ)

instance : Scalar.KeepsWhole ℝ where
  clampToInt_ofInt bound number _ := by
    change max 0 (min (bound : ℤ) (ExactScalar.truncate ((number : ℤ) : ℝ))) = _
    rw [ExactScalar.truncate_intCast]
    omega

namespace Binary64

open Float.Model Float.Model.UnpackedFloat

variable {significand shift : ℕ} {exponent : ℤ}

/-! ## Rounding -/

/-- A shift keeps the quotient in the mantissa; what is shifted off only shows in the bits for
rounding. -/
theorem mantissa_shiftRight (extended : ExtendedMantissa) (shift : ℕ) :
    (extended >>> shift).mantissa = extended.mantissa / 2 ^ shift := by
  induction shift with
  | zero => exact (Nat.div_one _).symm
  | succ shift ih =>
    change (extended >>> shift).mantissa / 2 = _
    rw [ih, Nat.div_div_eq_div_mul, pow_succ]

/-- Nothing is rounded if only zeros are shifted out. -/
theorem shiftRight_exact (significand shift : ℕ) :
    (⟨significand * 2 ^ shift, false, false⟩ : ExtendedMantissa) >>> shift =
      ⟨significand, false, false⟩ := by
  induction shift generalizing significand with
  | zero =>
    rw [pow_zero, mul_one]
    rfl
  | succ shift ih =>
    have doubled : significand * 2 ^ (shift + 1) = significand * 2 * 2 ^ shift := by ring
    change ExtendedMantissa.shiftRightOne
      ((⟨significand * 2 ^ (shift + 1), false, false⟩ : ExtendedMantissa) >>> shift) = _
    rw [doubled, ih]
    simp [ExtendedMantissa.shiftRightOne]

/-- Rounding to the nearest, ties to even, leaves a mantissa or raises it by one. -/
theorem roundedMantissa_bounds (extended : ExtendedMantissa) :
    extended.mantissa ≤ extended.roundedMantissa ∧
      extended.roundedMantissa ≤ extended.mantissa + 1 := by
  obtain ⟨significand, _ | _, _ | _⟩ := extended
  all_goals
    simp [ExtendedMantissa.roundedMantissa, ExtendedMantissa.accuracy,
      Accuracy.roundToNearestEven]
  omega

/-- A significand of 53 bits and more is shifted to 53 bits. -/
theorem shiftToTargetExponent_eq (exponent : ℤ) (bits : significand.log2 = 52 + shift)
    (normal : -1074 ≤ exponent + shift) :
    shiftToTargetExponent .binary64 significand exponent .exact =
      ((⟨significand, false, false⟩ : ExtendedMantissa) >>> shift, exponent + shift) := by
  have target : Format.binary64.targetExponent (totalExponent significand exponent) =
      exponent + shift := by
    simp only [Format.targetExponent, totalExponent, bits, Format.mantissaBits, Format.minExponent]
    norm_num
    omega
  have amount : (exponent + shift - exponent).toNat = shift := by omega
  rw [shiftToTargetExponent, target, shiftToExponent, amount]
  rfl

/-- A number is rounded in two steps, the second of which takes off a bit that is carried. -/
theorem roundWithAccuracy_eq {cut final : ExtendedMantissa} {raised last : ℤ}
    (first : shiftToTargetExponent .binary64 significand exponent .exact = (cut, raised))
    (second : shiftToTargetExponent .binary64 cut.roundedMantissa raised .exact = (final, last))
    (positive : 0 < final.mantissa) :
    roundWithAccuracy .binary64 .positive significand exponent .exact =
      .finite .positive final.mantissa last positive := by
  unfold roundWithAccuracy
  simp [first, second, positive.ne']

/-- A significand of 53 bits and more is rounded to 53 bits, and the exponent does not get smaller
than that takes. Nothing is rounded if the bits that are left out are zeros. -/
theorem exists_roundWithAccuracy (exponent : ℤ) (bits : significand.log2 = 52 + shift)
    (normal : -1074 ≤ exponent + shift) :
    ∃ (rounded : ℕ) (raised : ℤ) (positive : 0 < rounded),
      roundWithAccuracy .binary64 .positive significand exponent .exact =
        .finite .positive rounded raised positive ∧ rounded.log2 = 52 ∧
        exponent + shift ≤ raised ∧
        (∀ whole, significand = whole * 2 ^ shift →
          rounded = whole ∧ raised = exponent + shift) := by
  have nonzero : significand ≠ 0 := by
    rintro rfl
    rw [Nat.log2_zero] at bits
    omega
  have first := shiftToTargetExponent_eq exponent bits normal
  have kept (whole : ℕ) (same : significand = whole * 2 ^ shift) :
      (⟨significand, false, false⟩ : ExtendedMantissa) >>> shift = ⟨whole, false, false⟩ := by
    rw [same, shiftRight_exact]
  have cutBits : 2 ^ 52 ≤ ((⟨significand, false, false⟩ : ExtendedMantissa) >>> shift).mantissa ∧
      ((⟨significand, false, false⟩ : ExtendedMantissa) >>> shift).mantissa < 2 ^ 53 := by
    rw [mantissa_shiftRight, Nat.le_div_iff_mul_le (by positivity),
      Nat.div_lt_iff_lt_mul (by positivity), ← pow_add, ← pow_add, ← Nat.le_log2 nonzero,
      ← Nat.log2_lt nonzero]
    omega
  generalize (⟨significand, false, false⟩ : ExtendedMantissa) >>> shift = cut at first kept cutBits
  obtain ⟨above, below⟩ := roundedMantissa_bounds cut
  by_cases carried : cut.roundedMantissa = 2 ^ 53
  · have bits' : cut.roundedMantissa.log2 = 52 + 1 := by rw [carried, Nat.log2_two_pow]
    have second := shiftToTargetExponent_eq (exponent + shift) bits' (by omega)
    have final : ((⟨cut.roundedMantissa, false, false⟩ : ExtendedMantissa) >>> 1).mantissa =
        2 ^ 52 := by
      rw [mantissa_shiftRight, carried]
      rfl
    refine ⟨_, _, _, roundWithAccuracy_eq first second (by rw [final]; positivity), ?_, ?_, ?_⟩
    · rw [final, Nat.log2_two_pow]
    · omega
    · intro whole same
      rw [kept whole same] at cutBits carried
      exact absurd carried cutBits.2.ne
  · have bits' : cut.roundedMantissa.log2 = 52 + 0 := by
      rw [Nat.log2_eq_iff (by omega)]
      omega
    have second := shiftToTargetExponent_eq (exponent + shift) bits' (by omega)
    refine ⟨_, _, _, roundWithAccuracy_eq first second ?_, bits', ?_, ?_⟩
    · change 0 < cut.roundedMantissa
      omega
    · omega
    · intro whole same
      rw [kept whole same]
      exact ⟨rfl, by omega⟩

/-! ## The bits of a double -/

/-- The bits of a positive double are its exponent field above the 52 bits of its fraction. -/
theorem toNat_packComponents (field : BitVec 11) (fraction : BitVec 52) :
    (packComponents .binary64 .positive field fraction).toNat =
      field.toNat * 2 ^ 52 + fraction.toNat := by
  have sign : (Sign.positive.toBitVec ++ field).toNat = field.toNat := by
    rw [BitVec.toNat_append]
    simp [Sign.toBitVec]
  change (Sign.positive.toBitVec ++ field ++ fraction).toNat = _
  rw [BitVec.toNat_append, sign, ← Nat.shiftLeft_add_eq_or_of_lt fraction.isLt, Nat.shiftLeft_eq]

/-- A normal double is packed as its exponent and what stands behind the first bit of its
significand, and one that is too large as infinity. -/
theorem pack_eq (bits : significand.log2 = 52) (normal : -1074 ≤ exponent)
    (positive : 0 < significand) :
    UnpackedFloat.pack .binary64 (.finite .positive significand exponent positive) =
      if exponent ≤ 971 then packComponents .binary64 .positive
        (BitVec.ofNat 11 (exponent + 1075).toNat) (BitVec.ofNat 52 significand)
      else packedInfinity .binary64 .positive := by
  have biased : (exponent + Format.binary64.exponentBias +
      Format.binary64.mantissaBitsWithoutImplicit).toNat = (exponent + 1075).toNat := by
    change (exponent + 1023 + 52).toNat = _
    congr 1
    omega
  have whole : significand.log2 + 1 = Format.binary64.mantissaBits := by
    rw [bits]
    rfl
  simp only [UnpackedFloat.pack, biased, whole, ↓reduceIte]
  by_cases small : exponent ≤ 971
  · rw [if_neg (by omega), if_pos small]
  · rw [if_pos (by omega), if_neg small]

/-- The parts of a double are read off its bits. -/
theorem ofFloat?_pack (bits : significand.log2 = 52) (normal : -1074 ≤ exponent)
    (small : exponent ≤ 971) (positive : 0 < significand) :
    Binary.ofFloat? (.ofModel (pack (.finite .positive significand exponent positive))) =
      some ⟨false, significand, exponent⟩ := by
  have sized := (Nat.log2_eq_iff positive.ne').mp bits
  have packed : (Float.ofModel
      (pack (.finite .positive significand exponent positive))).toBits.toNat =
        (exponent + 1075).toNat * 2 ^ 52 + (significand - 2 ^ 52) := by
    change (UnpackedFloat.pack .binary64
      (.finite .positive significand exponent positive)).toNat = _
    rw [pack_eq bits normal positive, if_pos small, toNat_packComponents, BitVec.toNat_ofNat,
      BitVec.toNat_ofNat]
    omega
  have field : ((exponent + 1075).toNat * 2 ^ 52 + (significand - 2 ^ 52)) / Nat.pow 2 52 %
      Nat.pow 2 11 = (exponent + 1075).toNat := by
    norm_num
    omega
  have fraction : ((exponent + 1075).toNat * 2 ^ 52 + (significand - 2 ^ 52)) % Nat.pow 2 52 =
      significand - 2 ^ 52 := by
    norm_num
    omega
  have sign : ((exponent + 1075).toNat * 2 ^ 52 + (significand - 2 ^ 52)) / Nat.pow 2 63 = 0 := by
    norm_num
    omega
  unfold Binary.ofFloat?
  simp only [packed, field, fraction, sign]
  rw [if_neg (by omega), if_neg (by omega)]
  have whole : Nat.pow 2 52 + (significand - 2 ^ 52) = significand := by
    norm_num
    omega
  have raised : ((exponent + 1075).toNat : ℤ) - 1075 = exponent := by omega
  rw [whole, raised]
  rfl

theorem ofModel_pack_of_large (bits : significand.log2 = 52) (large : 971 < exponent)
    (positive : 0 < significand) :
    Float.ofModel (Float.Model.pack (.finite .positive significand exponent positive)) =
      Float.ofModel (Float.Model.pack (.infinity .positive)) := by
  have packed := pack_eq bits (by omega : -1074 ≤ exponent) positive
  rw [if_neg (by omega)] at packed
  simp only [Float.Model.pack, packed]
  rfl

/-- A double that was packed as positive is unpacked as positive. -/
theorem unpackSign_packComponents (field : BitVec 11) (fraction : BitVec 52) :
    unpackSign (packComponents .binary64 .positive field fraction) = 0#1 := by
  have below : field.toNat * 2 ^ 52 + fraction.toNat < 2 ^ 63 := by omega
  apply BitVec.eq_of_toNat_eq
  simp only [unpackSign, BitVec.toNat_cast, BitVec.extractLsb_toNat, toNat_packComponents]
  rw [Nat.shiftRight_eq_div_pow, Nat.div_eq_of_lt below]
  rfl

/-- Packing loses nothing. -/
theorem unpack_pack (bits : significand.log2 = 52) (normal : -1074 ≤ exponent)
    (small : exponent ≤ 971) (positive : 0 < significand) :
    (pack (.finite .positive significand exponent positive)).unpack =
      .finite .positive significand exponent positive := by
  have sized := (Nat.log2_eq_iff positive.ne').mp bits
  have field : (BitVec.ofNat 11 (exponent + 1075).toNat).toNat = (exponent + 1075).toNat := by
    rw [BitVec.toNat_ofNat]
    omega
  have notAll : BitVec.ofNat 11 (exponent + 1075).toNat ≠ -1#11 := by
    intro all
    have := congrArg BitVec.toNat all
    rw [field] at this
    change _ = 2047 at this
    omega
  have notNone : BitVec.ofNat 11 (exponent + 1075).toNat ≠ 0#11 := by
    intro none
    have := congrArg BitVec.toNat none
    rw [field] at this
    change _ = 0 at this
    omega
  have whole : (1#1 ++ BitVec.ofNat 52 significand).toNat = significand := by
    rw [BitVec.toNat_append, ← Nat.shiftLeft_add_eq_or_of_lt (BitVec.isLt _), BitVec.toNat_ofNat]
    norm_num [Nat.shiftLeft_eq]
    omega
  change UnpackedFloat.unpack .binary64
    (UnpackedFloat.pack .binary64 (.finite .positive significand exponent positive)) = _
  rw [pack_eq bits normal positive, if_pos small]
  unfold UnpackedFloat.unpack
  simp only [unpackMantissa_packComponents, unpackExponent_packComponents,
    unpackSign_packComponents, notAll, notNone, ↓reduceIte, field, whole]
  have raised : ((exponent + 1075).toNat : ℤ) - (1023 + 52) = exponent := by omega
  exact congrArg (UnpackedFloat.finite .positive significand · positive) raised

/-! ## The doubles of natural numbers -/

theorem ofNat_eq_mul {number : ℕ} (small : number < 2 ^ 53) :
    Float.ofNat number = number.toUInt64.toFloat * Float.ofBits 0x3ff0000000000000 := by
  change Float.ofScientific number false 0 = _
  unfold Float.ofScientific
  rw [dif_pos ⟨small, Nat.zero_le _⟩]
  rfl

theorem ofNat_eq_ofScientific {number : ℕ} (large : 2 ^ 53 ≤ number) :
    Float.ofNat number = .ofModel (.ofScientific number 0) := by
  change Float.ofScientific number false 0 = _
  unfold Float.ofScientific
  rw [dif_neg fun fits => absurd fits.1 (not_lt.mpr large)]
  rfl

theorem log2_mul_two_pow {number : ℕ} (nonzero : number ≠ 0) (shift : ℕ) :
    (number * 2 ^ shift).log2 = number.log2 + shift := by
  induction shift with
  | zero => rw [pow_zero, mul_one, add_zero]
  | succ shift ih =>
    rw [pow_succ, ← mul_assoc, mul_comm _ 2, Nat.log2_two_mul (by positivity), ih, add_assoc]

/-- A natural number below `2 ^ 53` can be moved up to 53 bits. -/
theorem log2_aligned {number : ℕ} (nonzero : number ≠ 0) (small : number < 2 ^ 53) :
    (number * 2 ^ (52 - number.log2)).log2 = 52 := by
  have sized : number.log2 < 53 := (Nat.log2_lt nonzero).mpr small
  rw [log2_mul_two_pow nonzero]
  omega

/-- Moving it up rounds nothing. -/
theorem round_natural {number : ℕ} (nonzero : number ≠ 0) (small : number < 2 ^ 53) :
    ∃ positive, UnpackedFloat.round .binary64 .positive number 0 =
      .finite .positive (number * 2 ^ (52 - number.log2)) (number.log2 - 52) positive := by
  have sized : number.log2 < 53 := (Nat.log2_lt nonzero).mpr small
  have target : Format.binary64.targetExponent (totalExponent number 0) = number.log2 - 52 := by
    simp only [Format.targetExponent, totalExponent, Format.mantissaBits, Format.minExponent]
    norm_num
    omega
  have amount : (0 - ((number.log2 : ℤ) - 52)).toNat = 52 - number.log2 := by omega
  have bits : (number * 2 ^ (52 - number.log2)).log2 = 52 + 0 := log2_aligned nonzero small
  obtain ⟨rounded, raised, positive, found, -, -, kept⟩ :=
    exists_roundWithAccuracy (0 - ((52 - number.log2 : ℕ) : ℤ)) bits (by omega)
  obtain ⟨rfl, rfl⟩ := kept _ (by rw [pow_zero, mul_one])
  refine ⟨positive, ?_⟩
  simp only [UnpackedFloat.round, target, decreaseExponent, amount, Nat.shiftLeft_eq]
  exact found.trans (congrArg (UnpackedFloat.finite .positive _ · positive) (by omega))

/-- A whole number below `2 ^ 53` is converted without rounding: its significand is shifted up until
it has 53 bits. -/
theorem unpack_toFloat {number : ℕ} (nonzero : number ≠ 0) (small : number < 2 ^ 53) :
    ∃ positive, number.toUInt64.toFloat.toModel.unpack =
      .finite .positive (number * 2 ^ (52 - number.log2)) (number.log2 - 52) positive := by
  have sized : number.log2 < 53 := (Nat.log2_lt nonzero).mpr small
  have same : number.toUInt64.toNat = number :=
    UInt64.toNat_ofNat_of_lt' (small.trans (by decide))
  have normalized : UnpackedFloat.normalize .binary64 (number : ℤ) 0 .positive =
      UnpackedFloat.round .binary64 .positive number 0 := by
    unfold UnpackedFloat.normalize
    rw [compare_gt_iff_gt.mpr (by omega)]
    rfl
  obtain ⟨positive, rounded⟩ := round_natural nonzero small
  refine ⟨positive, ?_⟩
  change (Float.Model.pack
    (UnpackedFloat.normalize .binary64 (number.toUInt64.toNat : ℤ) 0 .positive)).unpack = _
  rw [same, normalized, rounded, unpack_pack (log2_aligned nonzero small) (by omega) (by omega)]

/-- Multiplying by one rounds nothing. -/
theorem mul_one_finite (bits : significand.log2 = 52) (normal : -1074 ≤ exponent)
    (positive : 0 < significand) :
    UnpackedFloat.mul .binary64 (.finite .positive significand exponent positive)
        (.finite .positive (2 ^ 52) (-52) (Nat.two_pow_pos 52)) =
      .finite .positive significand exponent positive := by
  have scaled : (significand * 2 ^ 52).log2 = 52 + 52 := by
    rw [log2_mul_two_pow positive.ne', bits]
  obtain ⟨rounded, raised, positive', found, -, -, kept⟩ :=
    exists_roundWithAccuracy (exponent + -52) scaled (by omega)
  obtain ⟨rfl, rfl⟩ := kept significand rfl
  have lowered : exponent + -52 + (52 : ℕ) = exponent := by omega
  exact found.trans (congrArg (UnpackedFloat.finite .positive _ · positive) lowered)

/-- A natural number below `2 ^ 53` is a double. -/
theorem exists_ofNat_of_lt {number : ℕ} (nonzero : number ≠ 0) (small : number < 2 ^ 53) :
    ∃ positive, Float.ofNat number = .ofModel (Float.Model.pack
      (.finite .positive (number * 2 ^ (52 - number.log2)) (number.log2 - 52) positive)) := by
  have one : (Float.ofBits 0x3ff0000000000000).toModel.unpack =
      .finite .positive (2 ^ 52) (-52) (Nat.two_pow_pos 52) :=
    unpack_pack Nat.log2_two_pow (by decide) (by decide) _
  obtain ⟨positive, converted⟩ := unpack_toFloat nonzero small
  refine ⟨positive, ?_⟩
  rw [ofNat_eq_mul small]
  change Float.ofModel (Float.Model.pack (UnpackedFloat.mul .binary64 _ _)) = _
  rw [converted, one, mul_one_finite (log2_aligned nonzero small) (by omega) positive]

/-- A larger number is rounded to a double that is no less than `2 ^ 53`, or infinite. -/
theorem exists_ofNat_of_le {number : ℕ} (large : 2 ^ 53 ≤ number) :
    ∃ (rounded : ℕ) (raised : ℤ) (positive : 0 < rounded),
      Float.ofNat number =
        .ofModel (Float.Model.pack (.finite .positive rounded raised positive)) ∧
      rounded.log2 = 52 ∧ 1 ≤ raised := by
  have nonzero : number ≠ 0 := by omega
  have sized : 53 ≤ number.log2 := (Nat.le_log2 nonzero).mpr large
  have scaled : (number * 2 ^ 53).log2 = 52 + (number.log2 + 1) := by
    rw [log2_mul_two_pow nonzero]
    omega
  obtain ⟨rounded, raised, positive, found, bits, above, -⟩ :=
    exists_roundWithAccuracy (-53) scaled (by omega)
  refine ⟨rounded, raised, positive, ?_, bits, by omega⟩
  have product : UnpackedFloat.ofScientific .binary64 number 0 =
      roundWithAccuracy .binary64 .positive (number * 2 ^ 53) (-53) .exact := by
    have shifted : number <<< Format.binary64.mantissaBits * 10 ^ (0 : ℤ).toNat =
        number * 2 ^ 53 := by
      rw [Nat.shiftLeft_eq]
      exact mul_one _
    have few : ¬(0 : ℤ) > 2 ^ Format.binary64.exponentBits := by norm_num
    have many : ¬(0 : ℤ) < -(2 ^ Format.binary64.exponentBits + number.log2) := by
      norm_num
    unfold UnpackedFloat.ofScientific
    rw [dif_neg nonzero, if_neg few, if_neg many, if_pos le_rfl, ← shifted]
    rfl
  rw [ofNat_eq_ofScientific large, ← found, ← product]
  rfl

/-! ## Reading a natural number back -/

/-- A double that is a natural number is cut to that number. -/
theorem wholeMagnitude_of_scaled (number shift : ℕ) :
    Binary.wholeMagnitude ⟨false, number * 2 ^ shift, -shift⟩ = number := by
  cases shift with
  | zero => simp [Binary.wholeMagnitude]
  | succ shift =>
    change number * 2 ^ (shift + 1) / Nat.pow 2 (shift + 1) = number
    exact Nat.mul_div_cancel _ (Nat.two_pow_pos _)

theorem wholeMagnitude_zero (exponent : ℤ) : Binary.wholeMagnitude ⟨false, 0, exponent⟩ = 0 := by
  cases exponent <;> simp [Binary.wholeMagnitude]

/-- A double with a full significand and a positive exponent is at least `2 ^ 53`. -/
theorem le_wholeMagnitude (bits : significand.log2 = 52) (raised : 1 ≤ exponent) :
    2 ^ 53 ≤ Binary.wholeMagnitude ⟨false, significand, exponent⟩ := by
  have nonzero : significand ≠ 0 := by
    rintro rfl
    rw [Nat.log2_zero] at bits
    omega
  have sized := ((Nat.log2_eq_iff nonzero).mp bits).1
  obtain ⟨power, rfl⟩ := Int.eq_ofNat_of_zero_le (show 0 ≤ exponent by omega)
  change 2 ^ 53 ≤ significand * 2 ^ power
  have doubled : 2 ^ 1 ≤ 2 ^ power := Nat.pow_le_pow_right (by decide) (by omega)
  calc 2 ^ 53 = 2 ^ 52 * 2 ^ 1 := by norm_num
    _ ≤ significand * 2 ^ power := Nat.mul_le_mul sized doubled

theorem clampToInt_of_parts {x : Float} {bound : ℕ}
    (parts : Binary.ofFloat? x = some ⟨false, significand, exponent⟩) :
    clampToInt 0 bound x =
      (min (Binary.wholeMagnitude ⟨false, significand, exponent⟩) bound : ℕ) := by
  simp only [clampToInt, parts, Binary.truncate]
  rw [if_neg Bool.false_ne_true]
  omega

/-- Infinity is clamped to the bound, as every number above it is. -/
theorem clampToInt_infinity (bound : ℕ) :
    clampToInt 0 bound (.ofModel (Float.Model.pack (.infinity .positive))) = bound := by
  have infinite : Binary.ofFloat? (.ofModel (Float.Model.pack (.infinity .positive))) = none := rfl
  have above : (0.0 : Float) < .ofModel (Float.Model.pack (.infinity .positive)) := by
    decide +kernel
  simp only [clampToInt, infinite]
  rw [if_pos above]

instance : Scalar.KeepsWhole Float where
  clampToInt_ofInt bound number small := by
    change clampToInt 0 bound (Float.ofNat number) = _
    by_cases zero : number = 0
    · subst zero
      have parts : Binary.ofFloat? (Float.ofNat 0) = some ⟨false, 0, -1074⟩ := by decide +kernel
      rw [clampToInt_of_parts parts, wholeMagnitude_zero]
    by_cases fits : number < 2 ^ 53
    · obtain ⟨positive, found⟩ := exists_ofNat_of_lt zero fits
      have sized : number.log2 < 53 := (Nat.log2_lt zero).mpr fits
      have lowered : (number.log2 : ℤ) - 52 = -(52 - number.log2 : ℕ) := by omega
      have parts := ofFloat?_pack (log2_aligned zero fits)
        (by omega : -1074 ≤ (number.log2 : ℤ) - 52) (by omega) positive
      rw [found, clampToInt_of_parts parts, lowered, wholeMagnitude_of_scaled]
    · obtain ⟨rounded, raised, positive, found, bits, above⟩ :=
        exists_ofNat_of_le (not_lt.mp fits)
      have clipped : min number bound = bound := min_eq_right (by omega)
      by_cases finite : raised ≤ 971
      · have large := le_wholeMagnitude bits above
        have parts := ofFloat?_pack bits (by omega) finite positive
        rw [found, clampToInt_of_parts parts, clipped, min_eq_right (by omega)]
      · rw [found, ofModel_pack_of_large bits (not_le.mp finite), clampToInt_infinity, clipped]

end Binary64

end PlacedText
