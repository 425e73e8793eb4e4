import PlacedText.Scalar.Basic

/-! # Points and affine transforms

A transform `[a b c d e f]` acts on row vectors: `x' = a x + c y + e` and `y' = b x + d y + f`.
Composition is written in the order of application.
-/

namespace PlacedText

variable {α : Type} [Scalar α]

structure Point (α : Type) where
  x : α
  y : α

/-- An affine transform of the plane. -/
structure Transform (α : Type) where
  a : α
  b : α
  c : α
  d : α
  e : α
  f : α

namespace Transform

def identity : Transform α := ⟨1.0, 0.0, 0.0, 1.0, 0.0, 0.0⟩

/-- Moves every point by an offset. -/
def shift (dx dy : α) : Transform α := ⟨1.0, 0.0, 0.0, 1.0, dx, dy⟩

/-- Counter-clockwise rotation about the origin. -/
def rotation (degrees : α) : Transform α :=
  let radians := Scalar.toRadians degrees
  let sin := Scalar.sin radians
  let cos := Scalar.cos radians
  ⟨cos, sin, -sin, cos, 0.0, 0.0⟩

/-- `first.andThen second` applies `first` and then `second`. -/
def andThen (first second : Transform α) : Transform α where
  a := first.a * second.a + first.b * second.c
  b := first.a * second.b + first.b * second.d
  c := first.c * second.a + first.d * second.c
  d := first.c * second.b + first.d * second.d
  e := first.e * second.a + first.f * second.c + second.e
  f := first.e * second.b + first.f * second.d + second.f

/-- Counter-clockwise rotation about a point: the point goes to the origin and back. -/
def rotationAbout (degrees : α) (centre : Point α) : Transform α :=
  ((shift (-centre.x) (-centre.y)).andThen (rotation degrees)).andThen
    (shift centre.x centre.y)

def apply (t : Transform α) (p : Point α) : Point α where
  x := t.a * p.x + t.c * p.y + t.e
  y := t.b * p.x + t.d * p.y + t.f

def determinant (t : Transform α) : α := t.a * t.d - t.b * t.c

/-- The inverse, unless the determinant is too close to zero. -/
def inverse? (t : Transform α) : Option (Transform α) :=
  let det := t.determinant
  if Scalar.abs det < 1e-12 then none
  else
    let a := t.d / det
    let b := -t.b / det
    let c := -t.c / det
    let d := t.a / det
    some { a, b, c, d, e := -(t.e * a + t.f * c), f := -(t.e * b + t.f * d) }

/-- The six entries in order. -/
def toList (t : Transform α) : List α := [t.a, t.b, t.c, t.d, t.e, t.f]

/-- A transform from its six entries; any other number of entries makes none. -/
def ofList? : List α → Option (Transform α)
  | [a, b, c, d, e, f] => some ⟨a, b, c, d, e, f⟩
  | _ => none

end Transform

end PlacedText
