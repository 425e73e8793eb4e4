import PlacedText.Page.GlyphBox
import PlacedText.Page.Layout
import PlacedText.Text.Normalization

/-! # Options

The limits of interpretation and the settings of processing.
-/

namespace PlacedText

variable {α : Type} [Scalar α]

/-- Limits and text handling of the interpretation of a page. -/
structure ExtractOptions where
  /-- The depth to which forms may nest. -/
  maxDepth : Nat
  /-- The number of operators that a page may execute, those of its forms included. -/
  maxOperators : Nat
  collectWarnings : Bool
  /-- The form that the text of each glyph is brought into. -/
  normalForm : NormalForm
deriving DecidableEq

namespace ExtractOptions

def standard : ExtractOptions := ⟨10, 1000000, true, .none⟩

end ExtractOptions

/-- The settings of processing a document. -/
structure ProcessOptions (α : Type) where
  /-- Glyph boxes reach from the baseline to the capital height instead of over the whole line. -/
  enhancedGlyphBoxes : Bool
  /-- Glyphs that do not print are left out. -/
  removeNonPrintable : Bool
  /-- Pages are rotated upright and straightened. -/
  deskew : Bool
  /-- Angles closer than this, in degrees, merge into one cluster. -/
  clusterThreshold : α
  /-- A larger skew, in degrees, is not corrected. -/
  maxSkew : α
  sortByPosition : Bool
  /-- The distance between baselines that ends a paragraph, in line heights. -/
  paragraphGap : α
  /-- The share of the text that the measurement of the skew leaves out at each end. -/
  tailQuantile : α
  separators : Separators
  extract : ExtractOptions

namespace ProcessOptions

def standard : ProcessOptions α where
  enhancedGlyphBoxes := false
  removeNonPrintable := false
  deskew := false
  clusterThreshold := 3.0
  maxSkew := 6.0
  sortByPosition := true
  paragraphGap := 3.5
  tailQuantile := 0.05
  separators := .standard
  extract := .standard

def boxPolicy (options : ProcessOptions α) : BoxPolicy :=
  if options.enhancedGlyphBoxes then .capHeight else .advance

def layout (options : ProcessOptions α) : LayoutOptions α :=
  { LayoutOptions.standard with
    sortByPosition := options.sortByPosition
    paragraphGap := options.paragraphGap
    nonPrintable := if options.removeNonPrintable then .drop else .keep
    separators := options.separators }

end ProcessOptions

end PlacedText
