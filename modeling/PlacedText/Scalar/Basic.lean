/-! # Scalars: the numbers in which places and angles are computed

Geometry, angle statistics, text positions and layout are written once, over any type with the
operations below. The program runs them on doubles; a statement about exact arithmetic reads the
same definitions over the real numbers.
-/

namespace PlacedText

/-- Numbers with the arithmetic, rounding and comparisons that positions and angles need.
Comparisons are those of the number type itself, so a value that is not a number compares false;
`totalLE` orders every value. -/
class Scalar (α : Type) extends
    Add α, Sub α, Mul α, Div α, Neg α, LT α, LE α, BEq α, OfScientific α where
  decidableLT : DecidableLT α
  decidableLE : DecidableLE α
  /-- The nearest value to a whole number. -/
  ofInt : Int → α
  /-- The value of a number that is stored as a double. -/
  ofFloat : Float → α
  abs : α → α
  floor : α → α
  /-- The nearest whole number; a half goes away from zero. -/
  round : α → α
  sqrt : α → α
  sin : α → α
  cos : α → α
  /-- The direction of the point `(x, y)` in radians, given as `atan2 y x`. -/
  atan2 : α → α → α
  pi : α
  /-- The Euclidean remainder, in `[0, |y|)`. -/
  emod : α → α → α
  isFinite : α → Bool
  /-- A total order that agrees with `≤` on ordinary numbers. -/
  totalLE : α → α → Bool
  /-- `clampToInt low high x` is `x` cut to its whole part and moved into `low … high`; it is zero
  if `x` is not a number. -/
  clampToInt : Int → Int → α → Int

attribute [reducible, instance] Scalar.decidableLT Scalar.decidableLE

namespace Scalar

variable {α β : Type} [Scalar α]

instance : Inhabited α := ⟨0.0⟩

/-- The value of a count. -/
def ofNat (count : Nat) : α := ofInt count

/-- The smaller of two numbers; one that is not a number gives way to the other. -/
def min (a b : α) : α := if b < a then b else if a == a then a else b

/-- The larger of two numbers; one that is not a number gives way to the other. -/
def max (a b : α) : α := if a < b then b else if a == a then a else b

/-- Sums from the left, starting at the negative zero that leaves every number unchanged. -/
def sum (numbers : List α) : α := numbers.foldl (· + ·) (-0.0)

/-- Stable ascending sort by a key. -/
def sortOn (key : β → α) (items : List β) : List β :=
  items.mergeSort fun first second => totalLE (key first) (key second)

/-- Stable descending sort by a key. -/
def sortOnDescending (key : β → α) (items : List β) : List β :=
  items.mergeSort fun first second => totalLE (key second) (key first)

/-- The first item with the least key. -/
def firstMinOn? (key : β → α) : List β → Option β
  | [] => none
  | item :: items => some <| items.foldl
      (fun best other => if totalLE (key best) (key other) then best else other) item

/-- Degrees to radians. -/
def toRadians (degrees : α) : α := degrees * (pi / 180.0)

/-- Radians to degrees. -/
def toDegrees (radians : α) : α := radians * (180.0 / pi)

end Scalar

end PlacedText
