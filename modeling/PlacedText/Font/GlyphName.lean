import PlacedText.Text.Hexadecimal
import PlacedText.Text.Utf16

/-! # Glyph names

The Unicode text of a glyph name: hexadecimal code units behind `uni`, a hexadecimal code point
behind `u`, a single letter, or one of the common Latin names. What follows a period does not count.
The digits of code units are counted in bytes, so reading them can fail: a group of four bytes that
ends inside of a character cannot be cut off.
-/

namespace PlacedText.GlyphName

/-- The common Latin names. -/
def latinNames : List (String × String) := [
  ("space", " "), ("exclam", "!"), ("quotedbl", "\""), ("numbersign", "#"), ("dollar", "$"),
  ("percent", "%"), ("ampersand", "&"), ("quotesingle", "'"), ("quoteright", "\u2019"),
  ("quoteleft", "\u2018"), ("quotedblleft", "\u201c"), ("quotedblright", "\u201d"),
  ("parenleft", "("), ("parenright", ")"), ("asterisk", "*"), ("plus", "+"), ("comma", ","),
  ("hyphen", "-"), ("minus", "\u2212"), ("period", "."), ("slash", "/"), ("zero", "0"),
  ("one", "1"), ("two", "2"), ("three", "3"), ("four", "4"), ("five", "5"), ("six", "6"),
  ("seven", "7"), ("eight", "8"), ("nine", "9"), ("colon", ":"), ("semicolon", ";"),
  ("less", "<"), ("equal", "="), ("greater", ">"), ("question", "?"), ("at", "@"),
  ("bracketleft", "["), ("backslash", "\\"), ("bracketright", "]"), ("underscore", "_"),
  ("braceleft", "\x7b"), ("bar", "|"), ("braceright", "\x7d"), ("endash", "\u2013"),
  ("emdash", "\u2014"), ("bullet", "\u2022"), ("ellipsis", "\u2026"), ("fi", "fi"), ("fl", "fl"),
  ("ff", "ff"), ("ffi", "ffi"), ("ffl", "ffl"), ("eacute", "\u00e9"), ("egrave", "\u00e8"),
  ("agrave", "\u00e0"), ("aacute", "\u00e1"), ("ccedilla", "\u00e7"), ("odieresis", "\u00f6"),
  ("udieresis", "\u00fc"), ("adieresis", "\u00e4"), ("germandbls", "\u00df"),
  ("Eacute", "\u00c9"), ("degree", "\u00b0"), ("copyright", "\u00a9"), ("registered", "\u00ae"),
  ("section", "\u00a7"), ("paragraph", "\u00b6"), ("Euro", "\u20ac")]

/-- The name without its variant, which a period begins. -/
def base (name : String) : List Char := name.toList.takeWhile (· ≠ '.')

/-- The number that hexadecimal digits spell; a plus sign may stand before them. -/
def hexNumber? (digits : List UInt8) : Option Nat :=
  let unsigned := match digits with
    | 0x2b :: rest => rest
    | _ => digits
  if unsigned.isEmpty then none
  else unsigned.foldlM (fun value b =>
    (Text.hexDigit? (Char.ofNat b.toNat)).map fun digit => 16 * value + digit) 0

/-- The characters behind some letters that a name may begin with. -/
def behind? : (letters name : List Char) → Option (List Char)
  | [], rest => some rest
  | _ :: _, [] => none
  | letter :: letters, c :: rest => if c = letter then behind? letters rest else none

/-! ## Code units -/

/-- A cut that would go through a character. -/
structure CutFault where
  /-- The number of bytes in front of the cut. -/
  position : Nat
deriving DecidableEq

/-- The bytes of some characters. -/
def bytesOf (chars : List Char) : Bytes := chars.flatMap String.utf8EncodeChar

/-- Cuts characters behind a number of bytes. There is no cut inside of a character, and none beyond
the last one. -/
def cutBehind? : (bytes : Nat) → (chars : List Char) → Option (List Char × List Char)
  | 0, chars => some ([], chars)
  | _ + 1, [] => none
  | bytes + 1, c :: rest =>
    if c.utf8Size ≤ bytes + 1 then
      (cutBehind? (bytes + 1 - c.utf8Size) rest).map fun (front, behind) => (c :: front, behind)
    else none

/-- The code units that groups of four bytes spell, from a position on. A group that is no number
ends the reading without a result, and one that cannot be cut off makes it fail. -/
def readUnits : (groups position : Nat) → (digits : List Char) →
    Except CutFault (Option (List UInt16))
  | 0, _, _ => .ok (some [])
  | groups + 1, position, digits =>
    match cutBehind? 4 digits with
    | none => .error ⟨position + 4⟩
    | some (group, rest) =>
      match hexNumber? (bytesOf group) with
      | none => .ok none
      | some unit => (readUnits groups (position + 4) rest).map (·.map (unit.toUInt16 :: ·))

/-- The characters behind `uni`, if their bytes are one or more groups of four. -/
def unitDigits? (name : List Char) : Option (List Char) :=
  match behind? ['u', 'n', 'i'] name with
  | none => none
  | some digits =>
    let size := (bytesOf digits).length
    if 4 ≤ size ∧ size % 4 = 0 then some digits else none

/-- Reads the text of code units in hexadecimal, four bytes each. -/
def readUnitText (digits : List Char) : Except CutFault (Option String) :=
  (readUnits ((bytesOf digits).length / 4) 0 digits).map (·.map Text.Utf16.decode)

/-! ## Names -/

/-- The character whose code point stands in hexadecimal behind `u`, in four to six bytes. -/
def codePointText? (name : List Char) : Option String := do
  let digits := bytesOf (← behind? ['u'] name)
  if 4 ≤ digits.length ∧ digits.length ≤ 6 then
    let code ← hexNumber? digits
    if code.isValidChar then some (String.singleton (Char.ofNat code)) else none
  else none

/-- The letter that is a name by itself. -/
def letterText? (name : List Char) : Option String :=
  match name with
  | [c] => if c.isAlpha then some (String.singleton c) else none
  | _ => none

/-- Reads the Unicode text of a glyph name, which may have none. -/
def readText (name : String) : Except CutFault (Option String) :=
  let stem := base name
  match unitDigits? stem with
  | some digits => readUnitText digits
  | none =>
    .ok ((codePointText? stem).or ((letterText? stem).or (latinNames.lookup (String.ofList stem))))

end PlacedText.GlyphName
