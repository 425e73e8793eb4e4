import PlacedText.Proofs.Drawing.Equivariance
import PlacedText.Proofs.Geometry.Rotation
import PlacedText.Proofs.Page.Runs

/-! # The corners of glyphs in the frame of their page

Glyphs are laid out on the page as it is turned for their orientation, and their boxes are recorded
in a frame that no longer depends on it: the turn and the way back come to the correction of the
skew alone (`PageLayout.outputCorners_of_turned`).
-/

namespace PlacedText

section Corners

variable {α : Type} [Scalar α]

/-- The corners of a glyph on the page it is drawn on. -/
def GlyphEvent.corners (policy : BoxPolicy) (glyph : GlyphEvent α) : List (Point α) :=
  let (ascent, descent) := glyph.font.lineExtent
  (policy.corners ⟨glyph.advance, ascent, descent, glyph.font.capHeight⟩).map glyph.trm.apply

namespace PlacementFrame

/-- The corners of a glyph in the frame that boxes are recorded in. -/
def outputCorners (frame : PlacementFrame α) (glyph : GlyphEvent α) : List (Point α) :=
  (frame.corners glyph).map frame.back.apply

/-- The recorded box of a glyph is the box around those corners. -/
theorem outputBox_of_place {frame : PlacementFrame α} {glyph : GlyphEvent α}
    {placed : PlacedGlyph α} (found : frame.place? glyph = some placed) :
    frame.box? (frame.outputCorners glyph) = some placed.outputBox := by
  cases found
  rfl

end PlacementFrame

/-- What takes the skew out of a page that is straightened; other pages are left as they are. -/
def PageOrientation.correction (options : ProcessOptions α) (orientation : PageOrientation α)
    (centre : Point α) : Transform α :=
  if options.deskew && orientation.decision.reliable then
    .rotationAbout (-orientation.decision.skewAngle) centre
  else .identity

/-- The corners of some glyphs with the skew of their page taken out. -/
def PageOrientation.correctedCorners (options : ProcessOptions α)
    (orientation : PageOrientation α) (centre : Point α) (glyphs : List (GlyphEvent α)) :
    List (List (Point α)) :=
  glyphs.map fun glyph =>
    (glyph.corners options.boxPolicy).map (orientation.correction options centre).apply

end Corners

variable {options : ProcessOptions ℝ} {orientation : PageOrientation ℝ}

/-- A glyph that is drawn by its transform followed by another has its corners moved by that. -/
theorem GlyphEvent.corners_of_isFollowedBy {t : Transform ℝ} {glyph seen : GlyphEvent ℝ}
    (moved : glyph.Related t.IsFollowedBy seen) (policy : BoxPolicy) :
    seen.corners policy = (glyph.corners policy).map t.apply := by
  have last : seen.trm = glyph.trm.andThen t := moved.trm
  unfold corners
  rw [← moved.font, ← moved.advance, last, List.map_map]
  exact List.map_congr_left fun p _ => Transform.apply_andThen glyph.trm t p

/-- The correction turns the page back by the corrected skew. -/
theorem PageOrientation.correction_eq (centre : Point ℝ) :
    orientation.correction options centre =
      .rotationAbout (-orientation.decision.correctedSkew options.deskew) centre := by
  unfold correction DeskewDecision.correctedSkew
  split
  · rfl
  · have zero : -(0.0 : ℝ) = 0 := by norm_num
    rw [zero, Transform.rotationAbout_zero]

/-- The corners of the glyphs of a page that is not straightened are those that were measured. -/
theorem PageOrientation.correctedCorners_of_not {options : ProcessOptions ℝ}
    {orientation : PageOrientation ℝ} (kept : options.deskew = false ∨
      orientation.decision.reliable = false) (centre : Point ℝ) (glyphs : List (GlyphEvent ℝ)) :
    orientation.correctedCorners options centre glyphs =
      glyphs.map (GlyphEvent.corners options.boxPolicy) := by
  have identity : orientation.correction options centre = .identity := by
    unfold correction
    rcases kept with off | unreliable
    · simp [off]
    · simp [unreliable]
  unfold correctedCorners
  rw [identity]
  refine List.map_congr_left fun glyph _ => ?_
  exact (List.map_congr_left fun p _ => Transform.apply_identity p).trans (List.map_id' _)

/-- Glyphs that are moved by the correction have the corrected corners. -/
theorem PageOrientation.map_corners {centre : Point ℝ} {glyphs seen : List (GlyphEvent ℝ)}
    (moved : List.Forall₂ (GlyphEvent.Related
      (orientation.correction options centre).IsFollowedBy) glyphs seen) :
    seen.map (GlyphEvent.corners options.boxPolicy) =
      orientation.correctedCorners options centre glyphs := by
  have same (glyph seen : GlyphEvent ℝ)
      (moved : glyph.Related (orientation.correction options centre).IsFollowedBy seen) :=
    (GlyphEvent.corners_of_isFollowedBy moved options.boxPolicy).symm
  exact (Replay.Views.forall₂_map_eq same moved).symm

namespace PageLayout

variable {mediaBox cropBox : Rect ℝ} {angle : ℝ} {replay : Replay ℝ}
  {measured : List (GlyphEvent ℝ)}

/-- **The recorded corners do not depend on the turn of the page.** They are those that were
measured, with the skew taken out. -/
theorem outputCorners_of_turned {glyph seen : GlyphEvent ℝ}
    (turned : glyph.Related (Transform.rotationAbout (-angle) cropBox.centre).IsFollowedBy seen) :
    (frame options orientation mediaBox cropBox angle).outputCorners seen =
      (glyph.corners options.boxPolicy).map
        (orientation.correction options cropBox.centre).apply := by
  have back : (Transform.rotationAbout (-angle) cropBox.centre).andThen
      (frame options orientation mediaBox cropBox angle).back =
        orientation.correction options cropBox.centre := by
    rw [PageOrientation.correction_eq]
    refine (Transform.rotationAbout_andThen _ _ _).trans ?_
    rw [neg_add_eq_sub, sub_sub_cancel_left]
  unfold PlacementFrame.outputCorners
  rw [← back]
  change (seen.corners options.boxPolicy).map _ = _
  rw [GlyphEvent.corners_of_isFollowedBy turned, List.map_map]
  exact List.map_congr_left fun p _ => (Transform.apply_andThen _ _ p).symm

/-- The corners that a replay puts out are those of the measured glyphs, turned about the centre of
the crop box and corrected: the transform in front of the replay is undone. -/
theorem map_outputCorners
    (turned : List.Forall₂ (GlyphEvent.Related
      (Transform.rotationAbout (-replay.angle) cropBox.centre).IsFollowedBy) measured
        replay.glyphs) :
    replay.glyphs.map (frame options orientation mediaBox cropBox replay.angle).outputCorners =
      orientation.correctedCorners options cropBox.centre measured := by
  have same (glyph seen : GlyphEvent ℝ) (moved : glyph.Related
      (Transform.rotationAbout (-replay.angle) cropBox.centre).IsFollowedBy seen) :
      (glyph.corners options.boxPolicy).map
          (orientation.correction options cropBox.centre).apply =
        (frame options orientation mediaBox cropBox replay.angle).outputCorners seen :=
    (outputCorners_of_turned moved).symm
  exact (Replay.Views.forall₂_map_eq same turned).symm

/-- The run of a turned page has the boxes around these corners, for the glyphs of its band. -/
theorem forall₂_run
    (turned : List.Forall₂ (GlyphEvent.Related
      (Transform.rotationAbout (-replay.angle) cropBox.centre).IsFollowedBy) measured
        replay.glyphs) :
    List.Forall₂ (fun glyph placed =>
      (frame options (.ofGlyphs options measured) mediaBox cropBox replay.angle).box?
        ((glyph.corners options.boxPolicy).map ((PageOrientation.ofGlyphs options
          measured).correction options cropBox.centre).apply) = some placed.outputBox)
      ((PageOrientation.ofGlyphs options measured).inBand measured replay.band)
      (run options (.ofGlyphs options measured) mediaBox cropBox replay) := by
  have inBand : List.Forall₂ (GlyphEvent.Related
      (Transform.rotationAbout (-replay.angle) cropBox.centre).IsFollowedBy)
      ((PageOrientation.ofGlyphs options measured).inBand measured replay.band)
      ((PageOrientation.ofGlyphs options measured).ofBand replay.band replay.glyphs) :=
    forall₂_filterMap_zip _ replay.band turned
  refine (PlacementFrame.forall₂_filterMap _ inBand).imp ?_
  rintro glyph placed ⟨seen, moved, found⟩
  rw [← outputCorners_of_turned moved]
  exact PlacementFrame.outputBox_of_place found

end PageLayout

end PlacedText
