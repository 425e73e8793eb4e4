import PlacedText.Drawing.State
import PlacedText.Proofs.Angle.Circle

/-! # The direction of text

The direction that a transform is measured to render text in is read off its second column. That is
the direction of the baseline, in which the text advances, as long as the columns are equally long;
horizontal scaling makes them differ, and tilts the measured direction of all text but that along
the axes (`DrawingState.ofTransform_renderingMatrix`).
-/

namespace PlacedText

open Scalar

variable {α : Type} [Scalar α]

/-- The direction in which a transform leads the first axis. -/
def Transform.baseline (t : Transform α) : α := Angle.normalize (toDegrees (atan2 t.b t.a))

/-- A uniform scaling, then a counter-clockwise rotation, then a shift. -/
def Transform.similarity (factor degrees dx dy : α) : Transform α :=
  ((⟨factor, 0.0, 0.0, factor, 0.0, 0.0⟩ : Transform α).andThen (.rotation degrees)).andThen
    (.shift dx dy)

namespace Transform

variable {factor degrees dx dy : ℝ}

theorem similarity_real : similarity factor degrees dx dy =
    ⟨factor * Real.cos (toRadians degrees), factor * Real.sin (toRadians degrees),
      -(factor * Real.sin (toRadians degrees)), factor * Real.cos (toRadians degrees), dx, dy⟩ := by
  change andThen (andThen _ ⟨Real.cos (toRadians degrees), Real.sin (toRadians degrees),
    -Real.sin (toRadians degrees), Real.cos (toRadians degrees), 0.0, 0.0⟩) _ = _
  unfold shift andThen
  norm_num

end Transform

namespace DrawingState

variable {state : DrawingState ℝ} {factor degrees dx dy : ℝ}

/-- The first column and the end of the second one of the matrix that turned text is rendered by. -/
theorem renderingMatrix_of_similarity
    (turned : state.textMatrix.andThen state.ctm = .similarity factor degrees dx dy) :
    state.renderingMatrix.a =
        state.params.fontSize * factor * (state.params.scale * Real.cos (toRadians degrees)) ∧
      state.renderingMatrix.b =
        state.params.fontSize * factor * (state.params.scale * Real.sin (toRadians degrees)) ∧
      state.renderingMatrix.d =
        state.params.fontSize * factor * Real.cos (toRadians degrees) := by
  have matrix : state.renderingMatrix = Transform.andThen ⟨state.params.fontSize *
      state.params.scale, 0.0, 0.0, state.params.fontSize, 0.0, state.params.rise⟩
      (.similarity factor degrees dx dy) := by
    rw [← turned, ← Transform.andThen_assoc]
    rfl
  rw [matrix, Transform.similarity_real]
  unfold Transform.andThen
  norm_num
  refine ⟨by ring, by ring, by ring⟩

/-- A positive scaling in percent is a positive factor. -/
theorem scale_pos (scaled : 0 < state.params.scaling) : 0 < state.params.scale := by
  have hundred : state.params.scale = state.params.scaling / 100 := by
    change state.params.scaling / 100.0 = _
    norm_num
  rw [hundred]
  linarith

theorem scale_eq_one_iff : state.params.scale = 1 ↔ state.params.scaling = 100 := by
  change state.params.scaling / 100.0 = 1 ↔ _
  norm_num [div_eq_iff]

/-- **The measured direction of text.** Text that is turned by some angle is measured in the
direction of a point that the horizontal scaling moves away from the baseline, which is the baseline
only without scaling or along an axis. -/
theorem ofTransform_renderingMatrix (sized : 0 < state.params.fontSize)
    (scaled : 0 < state.params.scaling) (positive : 0 < factor)
    (turned : state.textMatrix.andThen state.ctm = .similarity factor degrees dx dy) :
    Angle.ofTransform state.renderingMatrix =
        Angle.normalize (toDegrees (atan2 (state.params.scale * Real.sin (toRadians degrees))
          (Real.cos (toRadians degrees)))) ∧
      state.renderingMatrix.baseline = Angle.normalize degrees ∧
      (Angle.ofTransform state.renderingMatrix = Angle.normalize degrees ↔
        state.params.scaling = 100 ∨ Real.sin (toRadians degrees) = 0 ∨
          Real.cos (toRadians degrees) = 0) := by
  obtain ⟨a, b, d⟩ := renderingMatrix_of_similarity turned
  have sizePositive : 0 < state.params.fontSize * factor := mul_pos sized positive
  have measured : Angle.ofTransform state.renderingMatrix =
      Angle.normalize (toDegrees (atan2 (state.params.scale * Real.sin (toRadians degrees))
        (Real.cos (toRadians degrees)))) := by
    unfold Angle.ofTransform
    rw [b, d, Angle.atan2_mul sizePositive]
  have drawn : state.renderingMatrix.baseline = Angle.normalize degrees := by
    unfold Transform.baseline
    rw [a, b, Angle.atan2_mul sizePositive, Angle.atan2_mul (scale_pos scaled),
      Angle.normalize_atan2_circle]
  have agree := Angle.normalize_atan2_stretched_iff (scale_pos scaled) degrees
  rw [scale_eq_one_iff, ← measured] at agree
  exact ⟨measured, drawn, agree⟩

/-- Text on the diagonal that is set half as wide is not measured on the diagonal. -/
theorem ofTransform_renderingMatrix_of_diagonal :
    let params : TextParams ℝ := { TextParams.initial with fontSize := 12, scaling := 50 }
    let state : DrawingState ℝ :=
      { DrawingState.initial .identity with params, textMatrix := .similarity 1 45 72 72 }
    state.renderingMatrix.baseline = Angle.normalize 45 ∧
      Angle.ofTransform state.renderingMatrix ≠ Angle.normalize 45 := by
  intro params state
  have eighth : toRadians (45 : ℝ) = Real.pi / 4 := by
    change 45 * (Real.pi / 180.0) = _
    norm_num
    ring
  have root : √2 / 2 ≠ 0 := by positivity
  have sized : 0 < state.params.fontSize := by norm_num [state, params]
  have scaled : 0 < state.params.scaling := by norm_num [state, params]
  have turned : state.textMatrix.andThen state.ctm = .similarity 1 45 72 72 :=
    Transform.andThen_identity _
  obtain ⟨_, drawn, agree⟩ := ofTransform_renderingMatrix sized scaled one_pos turned
  refine ⟨drawn, fun measured => ?_⟩
  rw [eighth, Real.sin_pi_div_four, Real.cos_pi_div_four] at agree
  rcases agree.mp measured with full | along | upright
  · norm_num [state, params] at full
  · exact root along
  · exact root upright

end DrawingState

end PlacedText
