import PlacedText.Content.Stream
import PlacedText.Text.Utf16
import Std.Data.HashMap

/-! # Character maps

A character map gives the Unicode text of character codes. It is written as a content stream whose
operators end lists of single codes and of ranges; a later definition of a code replaces an earlier
one.
-/

namespace PlacedText

/-- The text of character codes. -/
structure CMap where
  byCode : Std.HashMap UInt32 String

namespace CMap

/-- A definition in a character map. -/
inductive Definition where
  /-- The text of one code. -/
  | single (code : UInt32) (units : List UInt16)
  /-- Consecutive codes, the last unit counting up with them. -/
  | range (first last : UInt32) (units : List UInt16)
  /-- Consecutive codes with a text for each; an item that is no string defines nothing. -/
  | listed (first last : UInt32) (texts : List (Option (List UInt16)))

/-- The code that a string spells: its first four bytes, the highest first. -/
def codeOf (bytes : Bytes) : UInt32 :=
  (bytes.take 4).foldl (fun code b => code <<< 8 ||| b.toUInt32) 0

/-- The units of a string; a single byte is a unit by itself. -/
def unitsOf (bytes : Bytes) : List UInt16 :=
  match bytes with
  | [b] => [b.toUInt16]
  | _ => Text.Utf16.units bytes

/-- The definitions in a list of single codes, each a code and its text. -/
def singles : List (Operand Numeral) → List Definition
  | source :: target :: rest =>
    match source.string?, target.string? with
    | some code, some text => .single (codeOf code) (unitsOf text) :: singles rest
    | _, _ => singles rest
  | _ => []

/-- The definitions in a list of ranges, each a first and a last code and what they stand for. -/
def ranges : List (Operand Numeral) → List Definition
  | first :: last :: target :: rest =>
    match first.string?, last.string?, target with
    | some first, some last, .string text =>
      .range (codeOf first) (codeOf last) (unitsOf text) :: ranges rest
    | some first, some last, .array items =>
      .listed (codeOf first) (codeOf last) (items.map fun item => item.string?.map unitsOf) ::
        ranges rest
    | _, _, _ => ranges rest
  | _ => []

/-- The definitions that an operator ends. -/
def definitions (operator : Operator Numeral) : List Definition :=
  if operator.name = "endbfchar" then singles operator.operands
  else if operator.name = "endbfrange" then ranges operator.operands
  else []

/-- The most codes that a range may have; a longer one is cut. -/
def maxRange : Nat := 65536

/-- How many codes a range has. -/
def rangeLength (first last : UInt32) : Nat :=
  if last < first then 0 else min maxRange (last.toNat - first.toNat + 1)

/-- Counts the last unit up, modulo `2 ^ 16`. -/
def countUp (offset : Nat) : List UInt16 → List UInt16
  | [] => []
  | [last] => [last + offset.toUInt16]
  | unit :: units => unit :: countUp offset units

/-- The codes that a definition covers, with their texts. -/
def Definition.entries : Definition → List (UInt32 × String)
  | .single code units => [(code, Text.Utf16.decode units)]
  | .range first last units =>
    if units.isEmpty then []
    else (List.range (rangeLength first last)).map fun offset =>
      (first + offset.toUInt32, Text.Utf16.decode (countUp offset units))
  | .listed first last texts =>
    ((List.range (rangeLength first last)).zip texts).filterMap fun (offset, units?) =>
      units?.map fun units => (first + offset.toUInt32, Text.Utf16.decode units)

def empty : CMap := ⟨∅⟩

/-- Takes a definition into the map. -/
def define (cmap : CMap) (definition : Definition) : CMap :=
  ⟨definition.entries.foldl (fun byCode (code, text) => byCode.insert code text) cmap.byCode⟩

/-- The map that a stream defines. -/
def ofStream (data : Bytes) : Except SyntaxFault CMap :=
  (Content.operators data).map fun operators =>
    (operators.flatMap definitions).foldl define empty

/-- The text of a code. -/
def lookup? (cmap : CMap) (code : UInt32) : Option String := cmap.byCode[code]?

/-- The number of codes that have a text. -/
def size (cmap : CMap) : Nat := cmap.byCode.size

end CMap

end PlacedText
