import PlacedText.Json.Decode
import PlacedText.Options.Basic

/-! # Options from JSON

Options are records all of whose fields may be missing; a missing field has its standard value.
-/

namespace PlacedText

namespace NormalForm

/-- A normalization form is given by its name, or by an object whose only member has that name and
the value null. -/
def ofJson? : Json → Option NormalForm
  | .string name => ofName? name
  | .object [(name, .null)] => ofName? name
  | _ => Option.none

end NormalForm

namespace Separators

def ofJson? (value : Json) : Option Separators := do
  let fields ← value.fields? ["word", "line", "paragraph_end", "page_end"]
  return {
    word := ← Json.optional fields "word" standard.word Json.string?
    line := ← Json.optional fields "line" standard.line Json.string?
    paragraphEnd := ← Json.optional fields "paragraph_end" standard.paragraphEnd Json.string?
    pageEnd := ← Json.optional fields "page_end" standard.pageEnd Json.string? }

end Separators

namespace ExtractOptions

def ofJson? (value : Json) : Option ExtractOptions := do
  let fields ← value.fields?
    ["max_recursion_depth", "max_operators_per_page", "collect_warnings", "unicode_norm"]
  return {
    maxDepth := ← Json.optional fields "max_recursion_depth" standard.maxDepth (Json.count? 64)
    maxOperators :=
      ← Json.optional fields "max_operators_per_page" standard.maxOperators (Json.count? 64)
    collectWarnings :=
      ← Json.optional fields "collect_warnings" standard.collectWarnings Json.bool?
    normalForm := ← Json.optional fields "unicode_norm" standard.normalForm NormalForm.ofJson? }

end ExtractOptions

namespace ProcessOptions

/-- The names of the settings in the order of the fields. -/
def fieldNames : List String :=
  ["enhanced_glyph_boxes", "remove_non_printable", "deskew", "ignore_angles_closer_than",
    "max_deskew_angle_abs", "sort_by_position", "drop_threshold", "angle_tails_skip_quantile",
    "separators", "extract"]

def ofJson? (value : Json) : Option (ProcessOptions Float) := do
  let fields ← value.fields? fieldNames
  let usual : ProcessOptions Float := standard
  return {
    enhancedGlyphBoxes :=
      ← Json.optional fields "enhanced_glyph_boxes" usual.enhancedGlyphBoxes Json.bool?
    removeNonPrintable :=
      ← Json.optional fields "remove_non_printable" usual.removeNonPrintable Json.bool?
    deskew := ← Json.optional fields "deskew" usual.deskew Json.bool?
    clusterThreshold :=
      ← Json.optional fields "ignore_angles_closer_than" usual.clusterThreshold Json.float?
    maxSkew := ← Json.optional fields "max_deskew_angle_abs" usual.maxSkew Json.float?
    sortByPosition := ← Json.optional fields "sort_by_position" usual.sortByPosition Json.bool?
    paragraphGap := ← Json.optional fields "drop_threshold" usual.paragraphGap Json.float?
    tailQuantile :=
      ← Json.optional fields "angle_tails_skip_quantile" usual.tailQuantile Json.float?
    separators := ← Json.optional fields "separators" usual.separators Separators.ofJson?
    extract := ← Json.optional fields "extract" usual.extract ExtractOptions.ofJson? }

end ProcessOptions

end PlacedText
