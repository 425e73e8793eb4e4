import PlacedText.Scalar.Basic

/-! # Doubles as scalars

A finite double is a sign, a whole significand and a power of two. Remainders, truncation and the
total order are read off that form, so they are exact for every value.
-/

namespace PlacedText

/-- A finite double: `± significand · 2 ^ exponent`. -/
structure Binary where
  negative : Bool
  significand : Nat
  exponent : Int
deriving DecidableEq

namespace Binary

/-- The parts of a double, unless it is infinite or not a number. -/
def ofFloat? (x : Float) : Option Binary :=
  let bits := x.toBits.toNat
  let field : Nat := bits / Nat.pow 2 52 % Nat.pow 2 11
  let fraction : Nat := bits % Nat.pow 2 52
  let negative := bits / Nat.pow 2 63 == 1
  if field = 2047 then none
  else if field = 0 then some ⟨negative, fraction, -1074⟩
  else some ⟨negative, Nat.pow 2 52 + fraction, field - 1075⟩

/-- The magnitude cut to its whole part. -/
def wholeMagnitude (x : Binary) : Nat :=
  match x.exponent with
  | .ofNat power => x.significand * Nat.pow 2 power
  | .negSucc power => x.significand / Nat.pow 2 (power + 1)

/-- The value cut to its whole part. -/
def truncate (x : Binary) : Int :=
  if x.negative then -(x.wholeMagnitude : Int) else x.wholeMagnitude

/-- Whether the value is zero, of either sign. -/
def isZero (x : Binary) : Bool := x.significand == 0

/-- The magnitude in units of `2 ^ unit`, for a unit not above the exponent. -/
def magnitudeIn (x : Binary) (unit : Int) : Nat :=
  x.significand * Nat.pow 2 (x.exponent - unit).toNat

end Binary

namespace Binary64

/-- The remainder of a division whose quotient is cut to its whole part. It has the sign of the
dividend and needs no rounding. -/
def remainder (x y : Float) : Float :=
  match Binary.ofFloat? x, Binary.ofFloat? y with
  | some dividend, some divisor =>
    if divisor.isZero then 0.0 / 0.0
    else
      let unit := min dividend.exponent divisor.exponent
      let left := dividend.magnitudeIn unit % divisor.magnitudeIn unit
      let magnitude := if left = 0 then 0.0 else (Float.ofNat left).scaleB unit
      if dividend.negative then -magnitude else magnitude
  | some _, none => if y == y then x else y
  | none, _ => 0.0 / 0.0

/-- The Euclidean remainder: a negative remainder is moved up by the magnitude of the divisor. -/
def euclideanRemainder (x y : Float) : Float :=
  let left := remainder x y
  if left < 0.0 then left + y.abs else left

/-- The place of a double in the total order: negative values before positive ones, negative zero
before zero, and values that are not a number outermost. -/
def rank (x : Float) : Int :=
  let bits := x.toBits.toNat
  if bits < 0x8000000000000000 then bits else 0x7fffffffffffffff - bits

/-- Whole part moved into the bounds; zero for a value that is not a number. -/
def clampToInt (low high : Int) (x : Float) : Int :=
  match Binary.ofFloat? x with
  | some parts => max low (min high parts.truncate)
  | none => if x > 0.0 then high else if x < 0.0 then low else 0

instance : Scalar Float where
  decidableLT := inferInstance
  decidableLE := inferInstance
  ofInt := Float.ofInt
  ofFloat x := x
  abs := Float.abs
  floor := Float.floor
  round := Float.round
  sqrt := Float.sqrt
  sin := Float.sin
  cos := Float.cos
  atan2 := Float.atan2
  pi := 3.141592653589793
  emod := euclideanRemainder
  isFinite x := (Binary.ofFloat? x).isSome
  totalLE x y := decide (rank x ≤ rank y)
  clampToInt := clampToInt

end Binary64

end PlacedText
