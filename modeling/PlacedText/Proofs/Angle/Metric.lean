import PlacedText.Proofs.Angle.Circle
import Mathlib.Algebra.Group.ModEq

/-! # The circle as a metric space

Angles that differ by full turns are one direction, and its normal angle stands for all of them.
Between directions the distance on the circle is a metric that no rotation changes
(`distance_metric`).
-/

namespace PlacedText.Angle

variable {first second third : ℝ}

/-! ## Directions as residues -/

theorem modEq_iff_turns :
    first ≡ second [PMOD 360] ↔ ∃ turns : ℤ, second - first = turns * 360 := by
  rw [AddCommGroup.modEq_iff_zsmul']
  simp only [zsmul_eq_mul]

/-- A normal direction stands for all angles that differ from it by full turns. -/
theorem normalize_eq_normalize_iff_modEq :
    normalize first = normalize second ↔ first ≡ second [PMOD 360] :=
  normalize_eq_normalize_iff.trans modEq_iff_turns.symm

theorem modEq_normalize (degrees : ℝ) : degrees ≡ normalize degrees [PMOD 360] :=
  normalize_eq_normalize_iff_modEq.mp (normalize_normalize degrees).symm

theorem difference_bounds (first second : ℝ) :
    -180 < difference first second ∧ difference first second ≤ 180 := by
  obtain ⟨above, below, -⟩ := normalize_eq_iff.mp (rfl : normalize (first - second) = _)
  exact ⟨above, below⟩

/-! ## The distance as a metric -/

theorem distance_nonneg (first second : ℝ) : 0 ≤ distance first second :=
  abs_nonneg (difference first second)

/-- No two directions are further apart than opposite ones. -/
theorem distance_le_halfTurn (first second : ℝ) : distance first second ≤ 180 := by
  obtain ⟨above, below⟩ := difference_bounds first second
  exact abs_le.mpr ⟨above.le, below⟩

/-- Only one and the same direction has no distance from itself. -/
theorem distance_eq_zero_iff : distance first second = 0 ↔ first ≡ second [PMOD 360] := by
  have upright : normalize (0 : ℝ) = 0 := normalize_of_normal (by norm_num) (by norm_num)
  calc distance first second = 0 ↔ normalize (first - second) = 0 := abs_eq_zero
    _ ↔ normalize (first - second) = normalize 0 := by rw [upright]
    _ ↔ ∃ turns : ℤ, 0 - (first - second) = turns * 360 := normalize_eq_normalize_iff
    _ ↔ ∃ turns : ℤ, second - first = turns * 360 := by simp only [zero_sub, neg_sub]
    _ ↔ first ≡ second [PMOD 360] := modEq_iff_turns.symm

theorem distance_add_right (first second turn : ℝ) :
    distance (first + turn) (second + turn) = distance first second := by
  unfold distance difference
  rw [add_sub_add_right_eq_sub]

/-- The short ways round from one direction to another and on from there make a way round, which is
no shorter than the short one. -/
theorem distance_triangle (first second third : ℝ) :
    distance first third ≤ distance first second + distance second third := by
  obtain ⟨turns, way⟩ := distance_eq_abs first second
  obtain ⟨turns', way'⟩ := distance_eq_abs second third
  have joined : first - third + ((turns + turns' : ℤ) : ℝ) * 360 =
      (first - second + turns * 360) + (second - third + turns' * 360) := by
    push_cast
    ring
  calc distance first third
      ≤ |first - third + ((turns + turns' : ℤ) : ℝ) * 360| := distance_le_abs first third _
    _ = |(first - second + turns * 360) + (second - third + turns' * 360)| := by rw [joined]
    _ ≤ |first - second + turns * 360| + |second - third + turns' * 360| := abs_add_le _ _
    _ = distance first second + distance second third := by rw [way, way']

/-- **Directions with their distance on the circle are a metric space.** The normal angle of a
direction lies in `(-180, 180]` and is the same for all angles of that direction, itself among them.
The distance is symmetric, at most a half turn, zero for one direction only, the same when both
directions are rotated alike, and no longer than a way over a third direction. -/
theorem distance_metric (a b c : ℝ) :
    (-180 < normalize a ∧ normalize a ≤ 180 ∧ a ≡ normalize a [PMOD 360] ∧
      normalize (normalize a) = normalize a ∧
      (normalize a = normalize b ↔ a ≡ b [PMOD 360])) ∧
    distance a b = distance b a ∧
    0 ≤ distance a b ∧ distance a b ≤ 180 ∧
    (distance a b = 0 ↔ a ≡ b [PMOD 360]) ∧
    (∀ turn, distance (a + turn) (b + turn) = distance a b) ∧
    distance a c ≤ distance a b + distance b c := by
  obtain ⟨above, below, -⟩ := normalize_eq_iff.mp (rfl : normalize a = _)
  exact ⟨⟨above, below, modEq_normalize a, normalize_normalize a,
      normalize_eq_normalize_iff_modEq⟩,
    distance_comm a b, distance_nonneg a b, distance_le_halfTurn a b, distance_eq_zero_iff,
    distance_add_right a b, distance_triangle a b c⟩

end PlacedText.Angle
