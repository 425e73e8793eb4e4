import PlacedText.Options.Basic
import PlacedText.Page.Orientation

/-! # Placing the glyphs of a page

The glyphs of each orientation are laid out with the page turned so that they are upright. Their
boxes are recorded in one frame for all orientations: the page as it is, or the page with its skew
taken out.
-/

namespace PlacedText

variable {α : Type} [Scalar α]

/-- How the glyphs of one orientation are placed. -/
structure PlacementFrame (α : Type) where
  policy : BoxPolicy
  /-- The height of the upper edge of the page. -/
  pageTop : α
  /-- From the page turned upright to the frame that boxes are recorded in. -/
  back : Transform α

namespace PlacementFrame

/-- The box around some points of the page, measured from its upper edge. -/
def box? (frame : PlacementFrame α) (points : List (Point α)) : Option (Box α) :=
  Box.around? (points.map fun p => ⟨p.x, frame.pageTop - p.y⟩)

/-- The corners of a glyph on the page it is drawn on. -/
def corners (frame : PlacementFrame α) (glyph : GlyphEvent α) : List (Point α) :=
  let (ascent, descent) := glyph.font.lineExtent
  (frame.policy.corners ⟨glyph.advance, ascent, descent, glyph.font.capHeight⟩).map glyph.trm.apply

/-- The text shown for a glyph that has none. -/
def replacement : String := "\ufffd"

/-- A glyph with its two boxes. -/
def place? (frame : PlacementFrame α) (glyph : GlyphEvent α) : Option (PlacedGlyph α) := do
  let corners := frame.corners glyph
  let layoutBox ← frame.box? corners
  let outputBox ← frame.box? (corners.map frame.back.apply)
  return ⟨glyph.unicode?.getD replacement, layoutBox, outputBox⟩

end PlacementFrame

/-- The glyphs of a page as they are seen when one of its orientations is upright. -/
structure Replay (α : Type) where
  angle : α
  /-- The position of the orientation among those of the page. -/
  band : Nat
  /-- All glyphs, those of other orientations too. -/
  glyphs : List (GlyphEvent α)

/-- The text of a page as far as it is laid out. -/
structure PageLayout (α : Type) where
  text : PageText α
  /-- The number of glyphs without text. -/
  unmapped : Nat

namespace PageLayout

def empty : PageLayout α := ⟨.empty, 0⟩

/-- Appends a run of glyphs of one orientation. -/
def addRun (layout : PageLayout α) (options : LayoutOptions α) (frame : PlacementFrame α)
    (glyphs : List (GlyphEvent α)) : PageLayout α where
  text := layout.text.pushRun options (glyphs.filterMap frame.place?)
  unmapped := layout.unmapped + (glyphs.filter fun glyph => glyph.unicode?.isNone).length

/-- The frame for the glyphs drawn at an angle. -/
def frame (options : ProcessOptions α) (orientation : PageOrientation α)
    (mediaBox cropBox : Rect α) (angle : α) : PlacementFrame α where
  policy := options.boxPolicy
  pageTop := mediaBox.top
  back := Transform.rotationAbout
    (angle - orientation.decision.correctedSkew options.deskew) cropBox.centre

/-- Views a page once for each of its orientations, the largest angle first. The view of an angle
gives the glyphs of the page turned so that what is drawn at that angle is upright. -/
def replays {m : Type → Type} [Monad m] (orientation : PageOrientation α)
    (view : α → m (List (GlyphEvent α))) : m (List (Replay α)) :=
  orientation.descending.mapM fun (angle, band) => do
    return ⟨angle, band, ← view angle⟩

/-- Lays out the glyphs of a page, one orientation after the other. -/
def ofReplays (options : ProcessOptions α) (orientation : PageOrientation α)
    (mediaBox cropBox : Rect α) (replays : List (Replay α)) : PageLayout α :=
  replays.foldl (fun layout replay =>
    layout.addRun options.layout (frame options orientation mediaBox cropBox replay.angle)
      (orientation.ofBand replay.band replay.glyphs)) empty

end PageLayout

end PlacedText
