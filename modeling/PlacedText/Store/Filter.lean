import PlacedText.Store.Object

/-! # Stream filters

Streams with filters are decoded by the library that reads a document, which a document therefore
comes with (`StreamDecoder`). The decoder here knows one filter, base-85.
-/

namespace PlacedText

namespace Base85

/-- The four bytes of a word, the highest first. -/
def wordBytes (word : UInt32) : Bytes :=
  [(word >>> 24).toUInt8, (word >>> 16).toUInt8, (word >>> 8).toUInt8, word.toUInt8]

/-- Takes one digit into a word, unless the word overflows. -/
def addDigit (word : UInt32) (digit : Nat) : Except ObjectFault UInt32 :=
  let next := word.toNat * 85 + digit
  if next < 0x100000000 then .ok next.toUInt32 else .error .base85Overflow

def isBlank (b : UInt8) : Bool :=
  b == 0x20 || b == 0x09 || b == 0x0a || b == 0x0c || b == 0x0d

/-- The bytes of the last digits of the data: the group is filled up with the highest digit, and has
one byte less than digits. -/
def finish (word : UInt32) (count : Nat) : Except ObjectFault Bytes :=
  if count = 0 then .ok []
  else do
    let filled ← (List.replicate (5 - count) 84).foldlM addDigit word
    return (wordBytes filled).take (count - 1)

/-- Decodes data from some digits of a group on. Five digits make four bytes, a `z` between groups
stands for four zero bytes, blanks are skipped, and any other byte that is no digit ends the
data. -/
def decodeFrom (word : UInt32) (count : Nat) : Bytes → Except ObjectFault Bytes
  | [] => finish word count
  | b :: rest =>
    if b = 0x7a then
      if count = 0 then (decodeFrom 0 0 rest).map ([0, 0, 0, 0] ++ ·)
      else .error .base85ZerosInGroup
    else if isBlank b then decodeFrom word count rest
    else if 0x21 ≤ b ∧ b ≤ 0x75 then
      match addDigit word (b.toNat - 0x21) with
      | .error fault => .error fault
      | .ok word =>
        if count = 4 then (decodeFrom 0 0 rest).map (wordBytes word ++ ·)
        else decodeFrom word (count + 1) rest
    else finish word count

/-- Decodes data up to its end mark. -/
def decode (data : Bytes) : Except ObjectFault Bytes := decodeFrom 0 0 data

end Base85

/-- What the data of a stream with filters is decoded to, told from its dictionary and the data. -/
abbrev StreamDecoder := Dictionary → Bytes → Except ObjectFault Bytes

namespace StreamDecoder

/-- The names of the filters, given directly as a name or an array of names. -/
def filterNames (filter : Object) : Except ObjectFault (List Bytes) :=
  match filter with
  | .name bytes => .ok [bytes]
  | .array items =>
    items.mapM fun item =>
      match item with
      | .name bytes => .ok bytes
      | other => .error (.filterNotName other.type)
  | other => .error (.filterNotNameOrArray other.type)

/-- Decodes data by one filter. -/
def applyFilter (data filter : Bytes) : Except ObjectFault Bytes :=
  if filter = Text.Utf8.encode "ASCII85Decode" then Base85.decode data
  else .error .unknownFilter

/-- Applies the filters in order, as long as all of them are base-85. An empty list of filters
leaves no data. -/
def base85 : StreamDecoder := fun dictionary data =>
  match filterNames ((dictionary.find? "Filter").getD .null) with
  | .error fault => .error fault
  | .ok [] => .ok []
  | .ok (first :: others) => do others.foldlM applyFilter (← applyFilter data first)

end StreamDecoder

end PlacedText
