import PlacedText.Decimal.Fixed

/-! # Short decimals

A decimal with a limited number of places, without the zeros that a reader does not need.
-/

namespace PlacedText.Decimal

/-- A text without the characters of a kind at its end. -/
def withoutTrailing (c : Char) (text : List Char) : List Char :=
  (text.reverse.dropWhile (· == c)).reverse

/-- A double with at most `places` digits after the point: zeros at the end and a point with nothing
behind it are left out, and zero has no sign. -/
def trimmed (places : Nat) (x : Float) : String :=
  let short := withoutTrailing '.' (withoutTrailing '0' (fixed places x).toList)
  if short = ['-', '0'] ∨ short = [] then "0" else String.ofList short

end PlacedText.Decimal
