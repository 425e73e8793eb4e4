import PlacedText.Font.GlyphName
import PlacedText.Text.Hexadecimal
import Std.Data.HashMap

/-! # Encodings of simple fonts

The text of a one-byte code: the glyph name that the font gives it, or else its character in a
single-byte character set.
-/

namespace PlacedText

/-- The character sets that encodings are based on. -/
inductive CharSet where
  | windows1252
  | macintosh
deriving DecidableEq

namespace CharSet

/-- The upper half of the Windows set, where it differs from Latin-1, in hexadecimal. -/
def windows1252High : List Char := (Text.hexNumbers "
  20ac 81 201a 192 201e 2026 2020 2021 2c6 2030 160 2039 152 8d 17d 8f
  90 2018 2019 201c 201d 2022 2013 2014 2dc 2122 161 203a 153 9d 17e 178
").map Char.ofNat

/-- The upper half of the Macintosh set, in hexadecimal. -/
def macintoshHigh : List Char := (Text.hexNumbers "
  c4 c5 c7 c9 d1 d6 dc e1 e0 e2 e4 e3 e5 e7 e9 e8 ea eb ed ec ee ef f1 f3 f2 f4 f6 f5 fa f9 fb fc
  2020 b0 a2 a3 a7 2022 b6 df ae a9 2122 b4 a8 2260 c6 d8 221e b1 2264 2265 a5 b5 2202 2211 220f
  3c0 222b aa ba 3a9 e6 f8 bf a1 ac 221a 192 2248 2206 ab bb 2026 a0 c0 c3 d5 152 153 2013 2014
  201c 201d 2018 2019 f7 25ca ff 178 2044 20ac 2039 203a fb01 fb02 2021 b7 201a 201e 2030 c2 ca c1
  cb c8 cd ce cf cc d3 d4 f8ff d2 da db d9 131 2c6 2dc af 2d8 2d9 2da b8 2dd 2db 2c7
").map Char.ofNat

/-- The character of a byte. -/
def decode (set : CharSet) (b : UInt8) : Char :=
  let code := b.toNat
  let same := Char.ofNat code
  if code < 0x80 then same
  else
    match set with
    | windows1252 => windows1252High.getD (code - 0x80) same
    | macintosh => macintoshHigh.getD (code - 0x80) same

end CharSet

/-- A character set with the codes that have glyph names instead. -/
structure Encoding where
  base : CharSet
  differences : Std.HashMap UInt32 String

namespace Encoding

/-- The standard encoding agrees with the Windows set on letters and digits, and stands for it. -/
def standard : Encoding := ⟨.windows1252, ∅⟩

/-- The character set of an encoding by its name; other names stand for the standard encoding. -/
def baseOfName (name : String) : CharSet :=
  if name = "MacRomanEncoding" then .macintosh else .windows1252

/-- The character of a code in the character set, if the code is a single byte. -/
def character? (encoding : Encoding) (code : UInt32) : Option String :=
  if code < 256 then some (String.singleton (encoding.base.decode code.toUInt8)) else none

/-- Reads the text of a code: that of its glyph name if it has one, and else its character. -/
def readText (encoding : Encoding) (code : UInt32) :
    Except GlyphName.CutFault (Option String) :=
  match encoding.differences[code]? with
  | some name => GlyphName.readText name
  | none => .ok (encoding.character? code)

end Encoding

end PlacedText
