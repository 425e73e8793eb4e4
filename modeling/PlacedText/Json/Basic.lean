import PlacedText.Decimal.Shortest

/-! # JSON values

JSON as data, written compactly: no blanks, the members of an object in their order, floating-point
numbers in their shortest form with a point or a power of ten, and only the characters escaped that
must be.
-/

namespace PlacedText

/-- A JSON value. Whole numbers and numbers with a fraction are kept apart. -/
inductive Json where
  | null
  | bool (value : Bool)
  | integer (value : Int)
  | float (value : Float)
  | string (text : String)
  | array (items : List Json)
  | object (members : List (String × Json))

namespace Json

instance : Inhabited Json := ⟨null⟩

/-- A hexadecimal digit in lower case. -/
def hexChar (digit : Nat) : Char :=
  if digit < 10 then Char.ofNat ('0'.toNat + digit) else Char.ofNat ('a'.toNat + digit - 10)

/-- A character inside a string. Control characters, the quote and the backslash are escaped. -/
def escapeChar (c : Char) : List Char :=
  if c = '"' then ['\\', '"']
  else if c = '\\' then ['\\', '\\']
  else if c = '\n' then ['\\', 'n']
  else if c = '\r' then ['\\', 'r']
  else if c = '\t' then ['\\', 't']
  else if c.toNat = 8 then ['\\', 'b']
  else if c.toNat = 12 then ['\\', 'f']
  else if c.toNat < 32 then
    ['\\', 'u', '0', '0', hexChar (c.toNat / 16), hexChar (c.toNat % 16)]
  else [c]

/-- A string between quotes. -/
def quote (text : String) : String :=
  "\"" ++ String.ofList (text.toList.flatMap escapeChar) ++ "\""

/-- A floating-point number; one that is not finite is null. -/
def writeFloat (x : Float) : String :=
  match Binary.ofFloat? x with
  | some parts => Decimal.writeShortest parts
  | none => "null"

mutual

/-- Appends the text of a value. -/
def write (text : String) : Json → String
  | null => text ++ "null"
  | bool value => text ++ (if value then "true" else "false")
  | integer value => text ++ toString value
  | float value => text ++ writeFloat value
  | string value => text ++ quote value
  | array items => writeItems (text ++ "[") true items ++ "]"
  | object members => writeMembers (text.push '\x7b') true members |>.push '\x7d'

/-- Appends the texts of some values, a comma before each but the first. -/
def writeItems (text : String) (first : Bool) : List Json → String
  | [] => text
  | item :: items => writeItems (write (if first then text else text ++ ",") item) false items

/-- Appends the texts of some members, a comma before each but the first. -/
def writeMembers (text : String) (first : Bool) : List (String × Json) → String
  | [] => text
  | (name, value) :: members =>
    let opened := (if first then text else text ++ ",") ++ quote name ++ ":"
    writeMembers (write opened value) false members

end

/-- The text of a value. -/
def render (value : Json) : String := write "" value

end Json

end PlacedText
