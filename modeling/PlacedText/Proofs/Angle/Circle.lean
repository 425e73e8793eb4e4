import PlacedText.Angle.Basic
import PlacedText.Proofs.Scalar.Real
import Mathlib.Algebra.Order.ToIntervalMod

/-! # Directions on the circle

In exact arithmetic a normal direction is the representative in `(-180, 180]` of an angle modulo
full turns (`normalize_eq_iff`), and the direction of a point is that of the ray that it lies on
(`normalize_arg_of_ray`).
-/

namespace PlacedText.Angle

open Scalar

/-- The program takes the remainder in `[0, 360)` and a turn off above 180, which is the
representative of the angle in `(-180, 180]`. -/
theorem normalize_eq_toIocMod (degrees : ℝ) :
    normalize degrees = toIocMod (by norm_num : (0 : ℝ) < 360) (-180) degrees := by
  have turns : normalize degrees =
      if degrees - 360 * ⌊degrees / 360⌋ > 180 then degrees - 360 * ⌊degrees / 360⌋ - 360
      else degrees - 360 * ⌊degrees / 360⌋ := by
    unfold normalize
    change (if degrees - |(360.0 : ℝ)| * ⌊degrees / |(360.0 : ℝ)|⌋ > 180.0 then
        degrees - |(360.0 : ℝ)| * ⌊degrees / |(360.0 : ℝ)|⌋ - 360.0
      else degrees - |(360.0 : ℝ)| * ⌊degrees / |(360.0 : ℝ)|⌋) = _
    norm_num
  have below := Int.floor_le (degrees / 360)
  have above := Int.lt_floor_add_one (degrees / 360)
  rw [turns, eq_comm, toIocMod_eq_iff]
  split
  · refine ⟨⟨by linarith, by linarith⟩, ⌊degrees / 360⌋ + 1, ?_⟩
    rw [zsmul_eq_mul]
    push_cast
    ring
  · refine ⟨⟨by linarith, by linarith⟩, ⌊degrees / 360⌋, ?_⟩
    rw [zsmul_eq_mul]
    ring

/-- The normal direction of an angle is the one number in `(-180, 180]` that differs from it by full
turns. -/
theorem normalize_eq_iff {degrees normal : ℝ} :
    normalize degrees = normal ↔
      -180 < normal ∧ normal ≤ 180 ∧ ∃ turns : ℤ, degrees = normal + turns * 360 := by
  rw [normalize_eq_toIocMod, toIocMod_eq_iff]
  norm_num [Set.mem_Ioc, and_assoc]

theorem normalize_of_normal {degrees : ℝ} (above : -180 < degrees) (below : degrees ≤ 180) :
    normalize degrees = degrees :=
  normalize_eq_iff.mpr ⟨above, below, 0, by simp⟩

theorem normalize_normalize (degrees : ℝ) : normalize (normalize degrees) = normalize degrees := by
  obtain ⟨above, below, -⟩ := normalize_eq_iff.mp (rfl : normalize degrees = _)
  exact normalize_of_normal above below

/-- Angles have the same normal direction if they differ by full turns. -/
theorem normalize_eq_normalize_iff {first second : ℝ} :
    normalize first = normalize second ↔ ∃ turns : ℤ, second - first = turns * 360 := by
  rw [normalize_eq_toIocMod, normalize_eq_toIocMod, toIocMod_eq_toIocMod]
  simp only [zsmul_eq_mul]

theorem normalize_normalize_sub (first second : ℝ) :
    normalize (normalize first - second) = normalize (first - second) := by
  obtain ⟨_, _, turns, same⟩ := normalize_eq_iff.mp (rfl : normalize first = _)
  rw [normalize_eq_normalize_iff]
  exact ⟨turns, by rw [sub_sub_sub_cancel_right]; linarith⟩

theorem difference_self (degrees : ℝ) : difference degrees degrees = 0 := by
  unfold difference
  rw [sub_self, normalize_of_normal (by norm_num) (by norm_num)]

/-! ## The distance of directions -/

/-- A distance is that of two representatives of the directions. -/
theorem distance_eq_abs (first second : ℝ) :
    ∃ turns : ℤ, distance first second = |first - second + turns * 360| := by
  obtain ⟨_, _, turns, same⟩ := normalize_eq_iff.mp (rfl : normalize (first - second) = _)
  refine ⟨-turns, ?_⟩
  change |normalize (first - second)| = _
  congr 1
  push_cast
  linarith

/-- The distance on the circle is the shortest of all ways from one direction to the other. -/
theorem distance_le_abs (first second : ℝ) (turns : ℤ) :
    distance first second ≤ |first - second + turns * 360| := by
  obtain ⟨above, below, own, same⟩ := normalize_eq_iff.mp (rfl : normalize (first - second) = _)
  change |normalize (first - second)| ≤ _
  generalize normalize (first - second) = offset at above below same ⊢
  have near : |offset| ≤ 180 := abs_le.mpr ⟨above.le, below⟩
  have other : first - second + turns * 360 = offset + ((own + turns : ℤ) : ℝ) * 360 := by
    push_cast
    linarith
  rw [other]
  rcases lt_trichotomy (own + turns) 0 with back | none | on
  · have far : ((own + turns : ℤ) : ℝ) ≤ -1 := by exact_mod_cast Int.le_sub_one_of_lt back
    have reach := neg_le_abs (offset + ((own + turns : ℤ) : ℝ) * 360)
    linarith
  · rw [none, Int.cast_zero, zero_mul, add_zero]
  · have far : (1 : ℝ) ≤ ((own + turns : ℤ) : ℝ) := by exact_mod_cast on
    have reach := le_abs_self (offset + ((own + turns : ℤ) : ℝ) * 360)
    linarith

/-- The distance is the same from either side, also half a turn apart, where both differences are
normalized to 180. -/
theorem distance_comm (first second : ℝ) : distance first second = distance second first := by
  have short (first second : ℝ) : distance first second ≤ distance second first := by
    obtain ⟨turns, same⟩ := distance_eq_abs second first
    rw [same, ← abs_neg]
    refine (distance_le_abs first second (-turns)).trans_eq ?_
    push_cast
    ring_nf
  exact (short first second).antisymm (short second first)

/-! ## Directions of points -/

/-- Two numbers of radians are normalized to the same degrees just where they are the same angle. -/
theorem normalize_toDegrees_eq_iff {first second : ℝ} :
    normalize (toDegrees first) = normalize (toDegrees second) ↔
      (first : Real.Angle) = second := by
  have positive := Real.pi_pos
  rw [normalize_eq_normalize_iff, eq_comm, Real.Angle.angle_eq_iff_two_pi_dvd_sub]
  refine exists_congr fun turns => ?_
  have scaled : toDegrees second - toDegrees first = (second - first) * 180 / Real.pi := by
    change second * (180.0 / Real.pi) - first * (180.0 / Real.pi) = _
    norm_num
    ring
  rw [scaled, div_eq_iff positive.ne']
  constructor
  · intro same
    linarith
  · intro same
    rw [same]
    ring

theorem toDegrees_toRadians (degrees : ℝ) : toDegrees (toRadians degrees) = degrees := by
  change degrees * (Real.pi / 180.0) * (180.0 / Real.pi) = degrees
  have positive := Real.pi_pos
  field_simp

/-- Points on one ray from the origin have the same direction. -/
theorem atan2_mul {distance : ℝ} (positive : 0 < distance) (x y : ℝ) :
    (atan2 (distance * y) (distance * x) : ℝ) = atan2 y x := by
  change Complex.arg ⟨distance * x, distance * y⟩ = Complex.arg ⟨x, y⟩
  have ray : (⟨distance * x, distance * y⟩ : ℂ) = distance * ⟨x, y⟩ := by
    apply Complex.ext
    · simp
    · simp
  rw [ray, Complex.arg_real_mul _ positive]

/-- The direction of a point on the unit circle is the angle that it stands at. -/
theorem normalize_atan2_circle (degrees : ℝ) :
    normalize (toDegrees (atan2 (Real.sin (toRadians degrees)) (Real.cos (toRadians degrees)))) =
      normalize degrees := by
  conv_rhs => rw [← toDegrees_toRadians degrees]
  rw [normalize_toDegrees_eq_iff]
  have angle := Complex.arg_cos_add_sin_mul_I_coe_angle (toRadians degrees : ℝ)
  have point : (Real.Angle.cos (toRadians degrees : ℝ) : ℂ) +
      Real.Angle.sin (toRadians degrees : ℝ) * Complex.I =
        ⟨Real.cos (toRadians degrees), Real.sin (toRadians degrees)⟩ := by
    apply Complex.ext
    · simp [-Complex.ofReal_cos, -Complex.ofReal_sin]
    · simp [-Complex.ofReal_cos, -Complex.ofReal_sin]
  rwa [point] at angle

/-- A point in some direction from the origin lies on the ray in this direction. -/
theorem ray_of_normalize_atan2 {x y degrees : ℝ}
    (direction : normalize (toDegrees (atan2 y x)) = normalize degrees) :
    ∃ distance : ℝ, x = distance * Real.cos (toRadians degrees) ∧
      y = distance * Real.sin (toRadians degrees) := by
  rw [← toDegrees_toRadians degrees, normalize_toDegrees_eq_iff] at direction
  change ((Complex.arg ⟨x, y⟩ : ℝ) : Real.Angle) = _ at direction
  refine ⟨‖(⟨x, y⟩ : ℂ)‖, ?_, ?_⟩
  · rw [← Real.Angle.cos_coe, ← direction, Real.Angle.cos_coe, Complex.norm_mul_cos_arg]
  · rw [← Real.Angle.sin_coe, ← direction, Real.Angle.sin_coe, Complex.norm_mul_sin_arg]

/-- Moving a point away from the first axis, or towards it, changes its direction, unless the point
lies on an axis. -/
theorem normalize_atan2_stretched_iff {stretch : ℝ} (positive : 0 < stretch) (degrees : ℝ) :
    normalize (toDegrees (atan2 (stretch * Real.sin (toRadians degrees))
        (Real.cos (toRadians degrees)))) = normalize degrees ↔
      stretch = 1 ∨ Real.sin (toRadians degrees) = 0 ∨ Real.cos (toRadians degrees) = 0 := by
  have circle := normalize_atan2_circle degrees
  constructor
  · intro direction
    obtain ⟨distance, x, y⟩ := ray_of_normalize_atan2 direction
    by_cases upright : Real.cos (toRadians degrees) = 0
    · exact .inr (.inr upright)
    · have unit : distance = 1 := (eq_div_of_mul_eq upright x.symm).trans (div_self upright)
      rw [unit, one_mul] at y
      exact (mul_left_eq_self₀.mp y).imp id .inl
  · rintro (one | along | upright)
    · rwa [one, one_mul]
    · rwa [along, mul_zero, ← along]
    · -- the scaled point lies on the same ray as the point itself
      have onRay := atan2_mul positive (Real.cos (toRadians degrees)) (Real.sin (toRadians degrees))
      rw [upright, mul_zero] at onRay
      rw [upright] at circle ⊢
      rwa [onRay]

end PlacedText.Angle
