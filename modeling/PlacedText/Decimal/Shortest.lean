import PlacedText.Scalar.Binary64

/-! # Shortest decimals

The shortest decimal of a double is the one with the fewest digits among the decimals that read
back as that double, and the nearest of those. A double is read back from every decimal within half
a step of it, ends included when its significand is even.
-/

namespace PlacedText.Decimal

/-- `digits · 10 ^ exponent`. -/
structure Digits where
  digits : Nat
  exponent : Int
deriving DecidableEq

/-- The decimals that read back as one double, on a common scale: a decimal `d` qualifies when
`low ≤ d * scale ≤ high`, or strictly between when `closed` is false. -/
structure Neighbourhood where
  value : Nat
  low : Nat
  high : Nat
  scale : Nat
  closed : Bool

/-- The neighbourhood of a positive double. Below a power of two the steps are half as wide. -/
def Neighbourhood.of (x : Binary) : Neighbourhood :=
  let narrow := x.significand == Nat.pow 2 52 && decide (-1074 < x.exponent)
  let quarter := x.exponent - 2
  let (up, scale) := (Nat.pow 2 quarter.toNat, Nat.pow 2 (-quarter).toNat)
  { value := 4 * x.significand * up
    low := (4 * x.significand - (if narrow then 1 else 2)) * up
    high := (4 * x.significand + 2) * up
    scale
    closed := x.significand % 2 == 0 }

/-- The same neighbourhood measured in units of `10 ^ place`. -/
def Neighbourhood.inUnits (around : Neighbourhood) (place : Int) : Neighbourhood :=
  let up := Nat.pow 10 (-place).toNat
  { value := around.value * up
    low := around.low * up
    high := around.high * up
    scale := around.scale * Nat.pow 10 place.toNat
    closed := around.closed }

/-- Whether a whole number of units qualifies. -/
def Neighbourhood.holds (around : Neighbourhood) (units : Nat) : Bool :=
  let scaled := units * around.scale
  if around.closed then around.low ≤ scaled && scaled ≤ around.high
  else around.low < scaled && scaled < around.high

/-- The qualifying number of units nearest to the value, if there is one. -/
def Neighbourhood.nearest? (around : Neighbourhood) : Option Nat :=
  let below := around.value / around.scale
  let rest := around.value % around.scale
  let ordered :=
    if 2 * rest < around.scale || (2 * rest == around.scale && below % 2 == 0)
    then [below, below + 1] else [below + 1, below]
  ordered.find? around.holds

/-- The largest power of ten not above `value / scale`, from an estimate that is off by at most
one. -/
def decimalExponent (x : Binary) (around : Neighbourhood) : Int :=
  let estimate := ((x.significand.log2 + x.exponent) * 30103).fdiv 100000
  let reaches (power : Int) : Bool :=
    around.scale * Nat.pow 10 power.toNat ≤ around.value * Nat.pow 10 (-power).toNat
  if !reaches estimate then estimate - 1
  else if reaches (estimate + 1) then estimate + 1
  else estimate

/-- The shortest decimal of the magnitude of a finite double. -/
def shortest (x : Binary) : Digits :=
  if x.significand = 0 then ⟨0, 0⟩
  else
    let around := Neighbourhood.of x
    let leading := decimalExponent x around
    let hit := (List.range 17).findSome? fun (extra : Nat) =>
      let place : Int := leading - extra
      (around.inUnits place).nearest?.map fun units => Digits.mk units place
    hit.getD ⟨x.significand, 0⟩

/-- The digits without trailing zeros, the exponent raised to match. -/
def Digits.trim (number : Digits) : Digits :=
  let characters := (Nat.repr number.digits).toList
  let zeros := (characters.reverse.takeWhile (· == '0')).length
  if number.digits = 0 then ⟨0, 0⟩
  else ⟨number.digits / Nat.pow 10 zeros, number.exponent + zeros⟩

/-- A power of ten behind a significand; it always has a sign. -/
def writePower (power : Int) : String :=
  (if 0 ≤ power then "e+" else "e-") ++ Nat.repr power.natAbs

/-- Writes a nonnegative decimal: with a point and at least one digit on either side of it from
`10 ^ -5` up to below `10 ^ 16`, and else as a significand with its power of ten. -/
def Digits.write (number : Digits) : String :=
  let trimmed := number.trim
  let text := Nat.repr trimmed.digits
  let point : Int := text.length + trimmed.exponent
  if trimmed.digits = 0 then "0.0"
  else if 0 < point && point ≤ 16 then
    let whole := point.toNat
    if text.length ≤ whole then
      text ++ String.ofList (List.replicate (whole - text.length) '0') ++ ".0"
    else String.ofList (text.toList.take whole) ++ "." ++ String.ofList (text.toList.drop whole)
  else if -5 < point && point ≤ 0 then
    "0." ++ String.ofList (List.replicate (-point).toNat '0') ++ text
  else
    let tail := String.ofList (text.toList.drop 1)
    String.ofList (text.toList.take 1) ++ (if tail.isEmpty then "" else "." ++ tail) ++
      writePower (point - 1)

/-- The shortest text of a finite double that reads back as the same double. -/
def writeShortest (x : Binary) : String :=
  (if x.negative then "-" else "") ++ (shortest x).write

end PlacedText.Decimal
