import PlacedText.Geometry.Transform

/-! # Boxes and rectangles

A `Box` has its origin at the top left of a page and measures downwards. A `Rect` lives in the user
space of a page, whose origin is at the bottom left.
-/

namespace PlacedText

variable {α : Type} [Scalar α]

/-- An axis-aligned box measured from the top left of a page. -/
structure Box (α : Type) where
  left : α
  top : α
  right : α
  bottom : α

namespace Box

def width (box : Box α) : α := box.right - box.left

def height (box : Box α) : α := box.bottom - box.top

def centre (box : Box α) : Point α :=
  ⟨(box.left + box.right) / 2.0, (box.top + box.bottom) / 2.0⟩

/-- The smallest box around both. -/
def union (box other : Box α) : Box α where
  left := Scalar.min box.left other.left
  top := Scalar.min box.top other.top
  right := Scalar.max box.right other.right
  bottom := Scalar.max box.bottom other.bottom

/-- The smallest box around a point and further points. -/
def around (first : Point α) (others : List (Point α)) : Box α :=
  others.foldl (fun box p => box.union ⟨p.x, p.y, p.x, p.y⟩) ⟨first.x, first.y, first.x, first.y⟩

/-- The smallest box around some points; there is none around no points. -/
def around? : List (Point α) → Option (Box α)
  | [] => none
  | first :: others => some (around first others)

end Box

/-- A corner with a width and a height. -/
structure Extent (α : Type) where
  x : α
  y : α
  width : α
  height : α

namespace Extent

def toList (extent : Extent α) : List α := [extent.x, extent.y, extent.width, extent.height]

/-- An extent from its four numbers; any other number of numbers makes none. -/
def ofList? : List α → Option (Extent α)
  | [x, y, width, height] => some ⟨x, y, width, height⟩
  | _ => none

end Extent

/-- A rectangle in user space, between its lower left and its upper right corner. -/
structure Rect (α : Type) where
  left : α
  bottom : α
  right : α
  top : α

namespace Rect

/-- The rectangle between two opposite corners, given in any order. -/
def ofCorners (x₀ y₀ x₁ y₁ : α) : Rect α :=
  ⟨Scalar.min x₀ x₁, Scalar.min y₀ y₁, Scalar.max x₀ x₁, Scalar.max y₀ y₁⟩

def width (rect : Rect α) : α := rect.right - rect.left

def height (rect : Rect α) : α := rect.top - rect.bottom

def centre (rect : Rect α) : Point α :=
  ⟨(rect.left + rect.right) / 2.0, (rect.bottom + rect.top) / 2.0⟩

/-- The lower left corner with the size. -/
def extent (rect : Rect α) : Extent α := ⟨rect.left, rect.bottom, rect.width, rect.height⟩

def toList (rect : Rect α) : List α := [rect.left, rect.bottom, rect.right, rect.top]

end Rect

end PlacedText
