import PlacedText.Geometry.Box

/-! # Boxes of characters

The box recorded for a character of the text: the top left corner and the extent, to the hundredth.
-/

namespace PlacedText

variable {α : Type} [Scalar α]

/-- The nearest hundredth; a half goes up. -/
def Scalar.roundToHundredth (x : α) : α := Scalar.floor (x * 100.0 + 0.5) / 100.0

/-- The box of a character: its top left corner with its size. -/
abbrev CharBox (α : Type) := Extent α

namespace CharBox

/-- A box with its corner and size rounded to the hundredth. -/
def ofBox (box : Box α) : CharBox α where
  x := Scalar.roundToHundredth box.left
  y := Scalar.roundToHundredth box.top
  width := Scalar.roundToHundredth box.width
  height := Scalar.roundToHundredth box.height

/-- The box of no area at the origin, which stands for a character without a box. -/
def zero : CharBox α := ⟨0.0, 0.0, 0.0, 0.0⟩

end CharBox

end PlacedText
