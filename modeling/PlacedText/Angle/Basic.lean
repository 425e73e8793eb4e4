import PlacedText.Geometry.Transform

/-! # Directions in degrees

A direction is an angle in degrees, normal when it lies in `(-180, 180]`.
-/

namespace PlacedText.Angle

variable {α : Type} [Scalar α]

/-- The same direction in `(-180, 180]`. -/
def normalize (degrees : α) : α :=
  let turn := Scalar.emod degrees 360.0
  if turn > 180.0 then turn - 360.0 else turn

/-- The nearest tenth of a degree, normalized. -/
def roundToTenth (degrees : α) : α :=
  normalize (Scalar.round (degrees * 10.0) / 10.0)

/-- The turn that leads from the second direction to the first, in `(-180, 180]`. -/
def difference (first second : α) : α := normalize (first - second)

/-- The distance between two directions on the circle, in `[0, 180]`. -/
def distance (first second : α) : α := Scalar.abs (difference first second)

/-- The direction of the baseline of text that a transform renders. -/
def ofTransform (t : Transform α) : α := normalize (Scalar.toDegrees (Scalar.atan2 t.b t.d))

end PlacedText.Angle
