import PlacedText.Text.Utf8

/-! # UTF-16

Text in 16-bit units, high byte first. A surrogate without its partner reads as the replacement
character.
-/

namespace PlacedText.Text.Utf16

/-- The units of some bytes, high byte first; a last single byte is left out. -/
def units : Bytes → List UInt16
  | high :: low :: rest => (high.toUInt16 <<< 8 ||| low.toUInt16) :: units rest
  | _ => []

def isHighSurrogate (unit : UInt16) : Bool := 0xd800 ≤ unit && unit < 0xdc00

def isLowSurrogate (unit : UInt16) : Bool := 0xdc00 ≤ unit && unit < 0xe000

/-- The character of a surrogate pair. -/
def join (high low : UInt16) : Char :=
  Char.ofNat (0x10000 + (high.toNat - 0xd800) * 1024 + (low.toNat - 0xdc00))

/-- The character of a unit that stands alone. -/
def single (unit : UInt16) : Char :=
  if isHighSurrogate unit || isLowSurrogate unit then Utf8.replacement
  else Char.ofNat unit.toNat

/-- Reads units as characters. -/
def characters : List UInt16 → List Char
  | unit :: next :: rest =>
    if isHighSurrogate unit && isLowSurrogate next then join unit next :: characters rest
    else single unit :: characters (next :: rest)
  | [unit] => [single unit]
  | [] => []

/-- Reads units as text. -/
def decode (units : List UInt16) : String := String.ofList (characters units)

end PlacedText.Text.Utf16
