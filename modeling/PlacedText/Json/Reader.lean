import PlacedText.Json.Basic
import PlacedText.Text.Hexadecimal
import PlacedText.Text.Utf16

/-! # Reading JSON

A text is read as a JSON value. A number without a fraction and without a power of ten is a whole
number; characters beyond the first plane are escaped as pairs of surrogates.
-/

namespace PlacedText.Json

def isBlank (c : Char) : Bool := c == ' ' || c == '\t' || c == '\n' || c == '\r'

def skipBlanks (text : List Char) : List Char := text.dropWhile isBlank

/-! ## Strings -/

/-- The value of four hexadecimal digits. -/
def hexUnit? (digits : List Char) : Option UInt16 :=
  (digits.foldlM (fun value c =>
    (Text.hexDigit? c).map fun digit => 16 * value + digit) 0).map Nat.toUInt16

/-- The character behind a backslash. -/
def escaped? (c : Char) : Option Char :=
  match c with
  | '"' | '\\' | '/' => some c
  | 'b' => some '\x08'
  | 'f' => some '\x0c'
  | 'n' => some '\n'
  | 'r' => some '\r'
  | 't' => some '\t'
  | _ => none

/-- The string that ends at the next quote and what follows it, given the characters so far, the
last first, and the first half of a surrogate pair that waits for the second. -/
def stringRest? (high? : Option UInt16) (found : List Char) :
    List Char → Option (String × List Char)
  | '\\' :: 'u' :: a :: b :: c :: d :: rest =>
    match hexUnit? [a, b, c, d], high? with
    | none, _ => none
    | some unit, some high =>
      if Text.Utf16.isLowSurrogate unit then
        stringRest? none (Text.Utf16.join high unit :: found) rest
      else none
    | some unit, none =>
      if Text.Utf16.isHighSurrogate unit then stringRest? (some unit) found rest
      else if Text.Utf16.isLowSurrogate unit then none
      else stringRest? none (Char.ofNat unit.toNat :: found) rest
  | '\\' :: c :: rest =>
    match escaped? c, high? with
    | some plain, none => stringRest? none (plain :: found) rest
    | _, _ => none
  | '"' :: rest => if high?.isNone then some (String.ofList found.reverse, rest) else none
  | c :: rest => if high?.isNone then stringRest? none (c :: found) rest else none
  | [] => none

/-! ## Numbers and words -/

/-- The value of decimal digits. -/
def decimal (digits : List Char) : Nat :=
  digits.foldl (fun value c => 10 * value + (c.toNat - '0'.toNat)) 0

/-- A power of ten: digits, perhaps behind a sign. -/
def power? (text : List Char) : Option Int :=
  let digits := if text.head? = some '+' ∨ text.head? = some '-' then text.drop 1 else text
  if digits.isEmpty ∨ !digits.all Char.isDigit then none
  else if text.head? = some '-' then some (-(decimal digits : Int))
  else some (decimal digits)

/-- The double nearest to `digits · 10 ^ power`. -/
def scaled (digits : Nat) (power : Int) : Float :=
  Float.ofScientific digits (decide (power < 0)) power.natAbs

/-- An unsigned number: digits, perhaps a fraction, and perhaps a power of ten. -/
def magnitude? (text : List Char) : Option Float := do
  let whole := text.takeWhile Char.isDigit
  let rest := text.dropWhile Char.isDigit
  let fraction := if rest.head? = some '.' then (rest.drop 1).takeWhile Char.isDigit else []
  let rest := if rest.head? = some '.' then (rest.drop 1).dropWhile Char.isDigit else rest
  let power ← match rest with
    | [] => some 0
    | mark :: rest => if mark = 'e' ∨ mark = 'E' then power? rest else none
  if whole.isEmpty then none
  else some (scaled (decimal (whole ++ fraction)) (power - fraction.length))

/-- A number. A whole number has digits only; a negative zero is no whole number. -/
def number? (text : List Char) : Option Json :=
  let negative := text.head? == some '-'
  let unsigned := if negative then text.drop 1 else text
  let isWhole := unsigned.all Char.isDigit && !(negative && decimal unsigned == 0)
  match magnitude? unsigned with
  | none => none
  | some size =>
    if isWhole then
      some (.integer (if negative then -(decimal unsigned : Int) else decimal unsigned))
    else some (.float (if negative then -size else size))

/-- A value that is neither a string nor made of values: a word or a number. -/
def scalar? (text : List Char) : Option Json :=
  if text = ['n', 'u', 'l', 'l'] then some null
  else if text = ['t', 'r', 'u', 'e'] then some (.bool true)
  else if text = ['f', 'a', 'l', 's', 'e'] then some (.bool false)
  else number? text

/-- Whether a character ends a word or a number. -/
def endsScalar (c : Char) : Bool := isBlank c || c == ',' || c == ']' || c == '\x7d'

/-! ## Values -/

mutual

/-- The value at the front of a text and what follows it, with at most so much nesting and so many
parts. -/
def value? : (fuel : Nat) → List Char → Option (Json × List Char)
  | 0, _ => none
  | fuel + 1, text =>
    match skipBlanks text with
    | '"' :: rest => (stringRest? none [] rest).map fun (text, rest) => (.string text, rest)
    | '[' :: rest =>
      match skipBlanks rest with
      | ']' :: rest => some (.array [], rest)
      | rest => items? fuel [] rest
    | '\x7b' :: rest =>
      match skipBlanks rest with
      | '\x7d' :: rest => some (.object [], rest)
      | rest => members? fuel [] rest
    | rest =>
      (scalar? (rest.takeWhile (!endsScalar ·))).map fun value =>
        (value, rest.dropWhile (!endsScalar ·))

/-- The items of an array from the next one on, given those so far, the last first. -/
def items? : (fuel : Nat) → List Json → List Char → Option (Json × List Char)
  | 0, _, _ => none
  | fuel + 1, found, text =>
    match value? fuel text with
    | none => none
    | some (item, rest) =>
      match skipBlanks rest with
      | ',' :: rest => items? fuel (item :: found) rest
      | ']' :: rest => some (.array (item :: found).reverse, rest)
      | _ => none

/-- The members of an object from the next one on, given those so far, the last first. -/
def members? : (fuel : Nat) → List (String × Json) → List Char → Option (Json × List Char)
  | 0, _, _ => none
  | fuel + 1, found, text =>
    match value? fuel text with
    | some (.string name, rest) =>
      match skipBlanks rest with
      | ':' :: rest =>
        match value? fuel rest with
        | none => none
        | some (item, rest) =>
          match skipBlanks rest with
          | ',' :: rest => members? fuel ((name, item) :: found) rest
          | '\x7d' :: rest => some (.object ((name, item) :: found).reverse, rest)
          | _ => none
      | _ => none
    | _ => none

end

/-- The value that a text spells, with blanks around it at most. -/
def read? (text : String) : Option Json :=
  let chars := text.toList
  match value? (chars.length + 1) chars with
  | some (value, rest) => if (skipBlanks rest).isEmpty then some value else none
  | none => none

end PlacedText.Json
