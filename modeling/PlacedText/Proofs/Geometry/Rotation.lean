import PlacedText.Proofs.Scalar.Real

/-! # Rotations about one centre

Rotations about the same centre add up (`Transform.rotationAbout_andThen`), so a rotation and the
one back cancel.
-/

namespace PlacedText.Transform

/-- A point goes through the transforms in their order. -/
theorem apply_andThen (first second : Transform ℝ) (p : Point ℝ) :
    (first.andThen second).apply p = second.apply (first.apply p) := by
  unfold apply andThen
  congr 1
  all_goals
    dsimp only
    ring

theorem apply_identity (p : Point ℝ) : (identity : Transform ℝ).apply p = p := by
  unfold apply identity
  norm_num

theorem shift_andThen_shift (x y x' y' : ℝ) :
    (shift x y).andThen (shift x' y') = shift (x + x') (y + y') := by
  unfold andThen shift
  norm_num

/-- Shifts along the first axis add up in front of any transform. -/
theorem shift_andThen_shift_andThen (x x' : ℝ) (t : Transform ℝ) :
    (shift (x + x') 0).andThen t = (shift x' 0).andThen ((shift x 0).andThen t) := by
  rw [← andThen_assoc, shift_andThen_shift, add_comm, add_zero]

theorem shift_zero : shift (0 : ℝ) 0 = identity := by
  unfold shift identity
  norm_num

/-- The rotation by zero degrees is the identity, as sine and cosine are exact there. -/
theorem rotation_zero : rotation (0 : ℝ) = identity := by
  have still : Scalar.toRadians (0 : ℝ) = 0 := zero_mul _
  unfold rotation identity
  rw [still]
  change (⟨Real.cos 0, Real.sin 0, -Real.sin 0, Real.cos 0, 0.0, 0.0⟩ : Transform ℝ) = _
  norm_num

/-- The angles of rotations about the origin add up. -/
theorem rotation_andThen (degrees degrees' : ℝ) :
    (rotation degrees).andThen (rotation degrees') = rotation (degrees + degrees') := by
  have sum : Scalar.toRadians (degrees + degrees') =
      Scalar.toRadians degrees + Scalar.toRadians degrees' := add_mul _ _ _
  have cosine := Real.cos_add (Scalar.toRadians degrees) (Scalar.toRadians degrees')
  have sine := Real.sin_add (Scalar.toRadians degrees) (Scalar.toRadians degrees')
  unfold rotation
  rw [sum]
  change andThen ⟨Real.cos _, Real.sin _, -Real.sin _, Real.cos _, 0.0, 0.0⟩
    ⟨Real.cos _, Real.sin _, -Real.sin _, Real.cos _, 0.0, 0.0⟩ =
      ⟨Real.cos _, Real.sin _, -Real.sin _, Real.cos _, 0.0, 0.0⟩
  rw [cosine, sine]
  unfold andThen
  congr 1
  all_goals norm_num
  all_goals ring

/-- **The angles of rotations about one centre add up.** -/
theorem rotationAbout_andThen (degrees degrees' : ℝ) (centre : Point ℝ) :
    (rotationAbout degrees centre).andThen (rotationAbout degrees' centre) =
      rotationAbout (degrees + degrees') centre := by
  have there : (shift centre.x centre.y).andThen (shift (-centre.x) (-centre.y)) = identity := by
    rw [shift_andThen_shift, add_neg_cancel, add_neg_cancel, shift_zero]
  unfold rotationAbout
  calc (((shift (-centre.x) (-centre.y)).andThen (rotation degrees)).andThen
          (shift centre.x centre.y)).andThen
        (((shift (-centre.x) (-centre.y)).andThen (rotation degrees')).andThen
          (shift centre.x centre.y))
      = (shift (-centre.x) (-centre.y)).andThen ((rotation degrees).andThen
          (((shift centre.x centre.y).andThen (shift (-centre.x) (-centre.y))).andThen
            ((rotation degrees').andThen (shift centre.x centre.y)))) := by
        simp only [andThen_assoc]
    _ = ((shift (-centre.x) (-centre.y)).andThen
          ((rotation degrees).andThen (rotation degrees'))).andThen
            (shift centre.x centre.y) := by
        rw [there, identity_andThen]
        simp only [andThen_assoc]
    _ = _ := by rw [rotation_andThen]

theorem rotationAbout_zero (centre : Point ℝ) : rotationAbout 0 centre = identity := by
  unfold rotationAbout
  rw [rotation_zero, andThen_identity, shift_andThen_shift, neg_add_cancel, neg_add_cancel,
    shift_zero]

end PlacedText.Transform
