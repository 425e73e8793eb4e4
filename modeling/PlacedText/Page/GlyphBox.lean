import PlacedText.Geometry.Box

/-! # The box of a glyph in glyph space

A glyph box spans the advance of the glyph. Vertically it covers the whole line of the font or just
the capital letters.
-/

namespace PlacedText

variable {α : Type} [Scalar α]

/-- The measures of a glyph: its advance in text space and the heights of its font in thousandths
of it. -/
structure GlyphMetrics (α : Type) where
  advance : α
  ascent : α
  descent : α
  capHeight : α

/-- The vertical extent that a glyph box covers. -/
inductive BoxPolicy where
  /-- From the descent to the ascent of the font. -/
  | advance
  /-- From the baseline to the height of the capital letters. -/
  | capHeight
deriving DecidableEq

namespace BoxPolicy

/-- The lower and the upper edge of a glyph box. A font without a cap height has that of its
ascent. -/
def extent (policy : BoxPolicy) (metrics : GlyphMetrics α) : α × α :=
  match policy with
  | .advance => (metrics.descent / 1000.0, metrics.ascent / 1000.0)
  | .capHeight =>
    let cap := if metrics.capHeight > 0.0 then metrics.capHeight else metrics.ascent
    (0.0, cap / 1000.0)

/-- The four corners of a glyph box, counter-clockwise from the lower left. -/
def corners (policy : BoxPolicy) (metrics : GlyphMetrics α) : List (Point α) :=
  let (low, high) := policy.extent metrics
  [⟨0.0, low⟩, ⟨metrics.advance, low⟩, ⟨metrics.advance, high⟩, ⟨0.0, high⟩]

end BoxPolicy

end PlacedText
