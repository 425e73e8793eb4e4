import PlacedText.Text.Hexadecimal
import PlacedText.Text.UnprintableRanges

/-! # Quoted text

Text in a message stands between quotes, with everything that cannot be seen written out, so that
texts that look alike can be told apart.
-/

namespace PlacedText.Text

/-- The ranges of characters that are not printed, read from their table. -/
def unprintableIntervals : List (Nat × Nat) := pairs (hexNumbers unprintableRanges)

/-- The characters that can be seen by themselves, and the blank. -/
def isPrintable (c : Char) : Bool :=
  !unprintableIntervals.any fun (first, last) => first ≤ c.toNat && c.toNat ≤ last

/-- A number in lower-case hexadecimal digits. -/
def hexDigits (n : Nat) : List Char := Nat.toDigits 16 n

/-- A character as it is written between quotes. -/
def quotedChar (c : Char) : List Char :=
  match c with
  | '"' => ['\\', '"']
  | '\\' => ['\\', '\\']
  | '\n' => ['\\', 'n']
  | '\r' => ['\\', 'r']
  | '\t' => ['\\', 't']
  | '\x00' => ['\\', '0']
  | _ => if isPrintable c then [c] else ['\\', 'u', '\x7b'] ++ hexDigits c.toNat ++ ['\x7d']

/-- A text between quotes. -/
def quoted (text : String) : String :=
  String.ofList ('"' :: text.toList.flatMap quotedChar ++ ['"'])

end PlacedText.Text
