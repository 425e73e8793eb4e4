/-! # UTF-8

Bytes are read as characters one byte at a time. A sequence of bytes that cannot be continued to a
character counts as one invalid piece, as long as it can be.
-/

namespace PlacedText

/-- Raw data. -/
abbrev Bytes := List UInt8

namespace Text.Utf8

/-- The character that stands for what cannot be read. -/
def replacement : Char := '\ufffd'

/-- A character that has been begun: the bits read so far, the number of bytes that are still to
come, and the bounds of the next one. -/
structure Pending where
  bits : Nat
  owed : Nat
  low : UInt8
  high : UInt8

/-- What the first byte of a character announces. -/
inductive Lead where
  | complete (c : Char)
  | pending (begun : Pending)
  | invalid

/-- The bounds of the second byte rule out overlong forms, surrogates and numbers beyond the last
character. -/
def lead (b : UInt8) : Lead :=
  let bits := b.toNat
  if b < 0x80 then .complete (Char.ofNat bits)
  else if b < 0xc2 then .invalid
  else if b < 0xe0 then .pending ⟨bits - 0xc0, 1, 0x80, 0xbf⟩
  else if b < 0xf0 then
    .pending ⟨bits - 0xe0, 2, if b = 0xe0 then 0xa0 else 0x80, if b = 0xed then 0x9f else 0xbf⟩
  else if b < 0xf5 then
    .pending ⟨bits - 0xf0, 3, if b = 0xf0 then 0x90 else 0x80, if b = 0xf4 then 0x8f else 0xbf⟩
  else .invalid

/-- Reads bytes into characters; `none` stands for an invalid piece. -/
def pieces : Option Pending → Bytes → List (Option Char)
  | none, [] => []
  | some _, [] => [none]
  | begun?, b :: rest =>
    let fromStart (_ : Unit) : List (Option Char) :=
      match lead b with
      | .complete c => some c :: pieces none rest
      | .pending begun => pieces (some begun) rest
      | .invalid => none :: pieces none rest
    match begun? with
    | none => fromStart ()
    | some begun =>
      if begun.low ≤ b ∧ b ≤ begun.high then
        let bits := begun.bits * 64 + b.toNat % 64
        if begun.owed = 1 then some (Char.ofNat bits) :: pieces none rest
        else pieces (some ⟨bits, begun.owed - 1, 0x80, 0xbf⟩) rest
      else none :: fromStart ()

/-- Reads bytes as text, with the replacement character for every invalid piece. -/
def decodeLossy (bytes : Bytes) : String :=
  String.ofList ((pieces none bytes).map fun piece => piece.getD replacement)

/-- Reads bytes as text if they are valid. -/
def decode? (bytes : Bytes) : Option String := ((pieces none bytes).mapM id).map String.ofList

/-- The bytes of a text. -/
def encode (text : String) : Bytes := text.toList.flatMap String.utf8EncodeChar

end Text.Utf8

end PlacedText
