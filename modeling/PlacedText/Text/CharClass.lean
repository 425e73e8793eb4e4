import PlacedText.Text.AlphanumericRanges
import PlacedText.Text.Hexadecimal

/-! # Classes of characters

White space, control characters, letters and numbers as Unicode defines them, and the length of
text in UTF-16 code units.
-/

namespace PlacedText.Text

/-- The characters with the Unicode property White_Space. -/
def isBlank (c : Char) : Bool :=
  let code := c.toNat
  (9 ≤ code && code ≤ 13) || code == 0x20 || code == 0x85 || code == 0xa0 || code == 0x1680 ||
    (0x2000 ≤ code && code ≤ 0x200a) || code == 0x2028 || code == 0x2029 || code == 0x202f ||
    code == 0x205f || code == 0x3000

/-- The control characters: the Unicode category Cc. -/
def isControl (c : Char) : Bool :=
  c.toNat < 0x20 || (0x7f ≤ c.toNat && c.toNat < 0xa0)

/-- The ranges of letters and numbers, read from their table. -/
def alphanumericIntervals : List (Nat × Nat) := pairs (hexNumbers alphanumericRanges)

/-- The characters that are letters or numbers. -/
def isAlphanumeric (c : Char) : Bool :=
  alphanumericIntervals.any fun (first, last) => first ≤ c.toNat && c.toNat ≤ last

/-- The number of UTF-16 code units of a character. -/
def units16 (c : Char) : Nat := if c.toNat < 0x10000 then 1 else 2

/-- The length of a text in UTF-16 code units. -/
def length16 (text : String) : Nat :=
  text.toList.foldl (fun length c => length + units16 c) 0

end PlacedText.Text
