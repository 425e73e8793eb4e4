import PlacedText.Angle.Clusters
import PlacedText.Angle.Skew
import PlacedText.Drawing.Recording

/-! # The orientation of the text on a page

The angles of the glyphs on a page are collected in a histogram. It gives the orientations that
occur, to one of which every glyph is assigned, and the rotation and skew of the page as a whole.
-/

namespace PlacedText

variable {α β : Type} [Scalar α]

/-- The orientations of the text on a page. -/
structure PageOrientation (α : Type) where
  clusters : Clusters α
  /-- The cluster of each glyph, in the order the glyphs are drawn in. -/
  bands : List (Option Nat)
  decision : DeskewDecision α

namespace PageOrientation

/-- The histogram of the angles of some glyphs. Glyphs without text do not count. -/
def histogramOf (glyphs : List (GlyphEvent α)) : Histogram α :=
  glyphs.foldl (fun histogram glyph =>
    match glyph.unicode? with
    | some text => histogram.addGlyph glyph.trm text
    | none => histogram) .empty

/-- The clusters of a histogram; without any angle the text counts as upright. -/
def clustersOf (histogram : Histogram α) (threshold : α) : Clusters α :=
  if histogram.isEmpty then .single 0.0 threshold else .ofHistogram histogram threshold

/-- The orientations of the glyphs of a page. -/
def ofGlyphs (options : ProcessOptions α) (glyphs : List (GlyphEvent α)) : PageOrientation α :=
  let histogram := histogramOf glyphs
  let clusters := clustersOf histogram options.clusterThreshold
  { clusters
    bands := glyphs.map fun glyph => clusters.bandOf? (Angle.ofTransform glyph.trm)
    decision := histogram.deskew options.tailQuantile options.maxSkew }

/-- The angles of the clusters with their positions, the largest angle first. -/
def descending (orientation : PageOrientation α) : List (α × Nat) :=
  Scalar.sortOnDescending Prod.fst orientation.clusters.angles.zipIdx

/-- The items of a band among as many items as there are glyphs, in the same order. -/
def ofBand (orientation : PageOrientation α) (band : Nat) (items : List β) : List β :=
  (items.zip orientation.bands).filterMap fun (item, own?) =>
    if own? = some band then some item else none

end PageOrientation

end PlacedText
