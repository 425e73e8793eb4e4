import PlacedText.Scalar.Binary64

/-! # Decimals with a fixed number of places

A quotient is rounded to the nearest whole number of units, a tie going to the even one, and the
units are written with a point before the last places.
-/

namespace PlacedText.Decimal

/-- The whole number nearest to `num / den`; a tie goes to the even neighbour. -/
def roundHalfEven (num den : Nat) : Nat :=
  let quotient := num / den
  let twice := 2 * (num % den)
  if twice < den then quotient
  else if den < twice then quotient + 1
  else if quotient % 2 = 0 then quotient else quotient + 1

/-- The magnitude of a finite double in units of `10 ^ -places`, rounded half to even. -/
def roundedUnits (places : Nat) (x : Binary) : Nat :=
  match x.exponent with
  | .ofNat power => x.significand * Nat.pow 2 power * Nat.pow 10 places
  | .negSucc power => roundHalfEven (x.significand * Nat.pow 10 places) (Nat.pow 2 (power + 1))

/-- The decimal digits of a count, at least `width` of them, zeros in front. -/
def padded (width count : Nat) : String :=
  let digits := Nat.repr count
  String.ofList (List.replicate (width - digits.length) '0') ++ digits

/-- Units of `10 ^ -places` written out, with a point if there are places. -/
def writeUnits (places units : Nat) : String :=
  if places = 0 then Nat.repr units
  else
    let whole := Nat.pow 10 places
    Nat.repr (units / whole) ++ "." ++ padded places (units % whole)

/-- A double with exactly `places` digits after the point. -/
def fixed (places : Nat) (x : Float) : String :=
  match Binary.ofFloat? x with
  | some parts =>
    (if parts.negative then "-" else "") ++ writeUnits places (roundedUnits places parts)
  | none => if x > 0.0 then "inf" else if x < 0.0 then "-inf" else "NaN"

end PlacedText.Decimal
