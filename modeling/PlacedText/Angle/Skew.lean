import PlacedText.Angle.Histogram
import PlacedText.Angle.TrimmedMean

/-! # Page rotation and skew

The trimmed mean of the glyph angles of a page splits into a right-angle rotation of the page and a
small skew that remains.
-/

namespace PlacedText

variable {α : Type} [Scalar α]

/-- How a page is oriented and how far it is skewed from that orientation. -/
structure DeskewDecision (α : Type) where
  /-- The trimmed mean of the glyph angles. -/
  fullAngle : α
  /-- The rotation of the page: 0, 90, 180 or 270 degrees. -/
  pageRotation : Nat
  /-- What is left of the mean after the rotation; zero if it is too large to be trusted. -/
  skewAngle : α
  /-- False when the angles scatter too much. -/
  reliable : Bool

namespace DeskewDecision

/-- Leaves a page as it is. -/
def unrotated (fullAngle : α) : DeskewDecision α := ⟨fullAngle, 0, 0.0, false⟩

/-- The measured angle of a page as far as it can be trusted. -/
def measuredAngle (decision : DeskewDecision α) : α :=
  if decision.reliable then
    Angle.normalize (Scalar.ofNat decision.pageRotation + decision.skewAngle)
  else 0.0

/-- The skew that is taken out of a page, if pages are to be straightened. -/
def correctedSkew (decision : DeskewDecision α) (deskew : Bool) : α :=
  if deskew && decision.reliable then decision.skewAngle else 0.0

/-- The rotation that a page is left with, if pages are to be rotated upright. -/
def finalRotation (decision : DeskewDecision α) (deskew : Bool) (before : Nat) : Nat :=
  if deskew && decision.reliable then decision.pageRotation else before

end DeskewDecision

namespace Histogram

/-- The angles of a histogram, unwrapped around the heaviest one so that neighbours across half a
turn stay neighbours. -/
def samplesAround (histogram : Histogram α) (mode : α) : List (Sample α) :=
  histogram.entries.map fun entry =>
    let unwrapped := mode + Angle.difference entry.angle mode
    ⟨unwrapped, entry.weight, Scalar.abs (unwrapped - mode)⟩

/-- Trimmed mean and deviation of a histogram. A histogram with fewer than two buckets is not
trimmed. -/
def stats (histogram : Histogram α) (quantile : α) : AngleStats α :=
  match histogram.mode? with
  | none => ⟨0.0, 0.0⟩
  | some mode =>
    let samples := histogram.samplesAround mode.angle
    let trimmed := TrimmedMean.ofSamples samples (if samples.length < 2 then 0.0 else quantile)
    ⟨Angle.normalize trimmed.mean, trimmed.deviation⟩

/-- The rotation and skew that the angles of a page call for. -/
def deskew (histogram : Histogram α) (quantile maxSkew : α) : DeskewDecision α :=
  if histogram.isEmpty then .unrotated 0.0
  else
    let found := histogram.stats quantile
    if !found.isTight then .unrotated found.mean
    else
      let quarterTurns := Scalar.round (found.mean / 90.0)
      let skew := found.mean - quarterTurns * 90.0
      { fullAngle := found.mean
        pageRotation := ((Scalar.clampToInt (-2) 2 quarterTurns) % 4).toNat * 90
        skewAngle := if Scalar.abs skew > maxSkew then 0.0 else skew
        reliable := true }

end Histogram

end PlacedText
