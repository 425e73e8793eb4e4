import PlacedText.Proofs.Text.Utf8
import PlacedText.Store.TextString

/-! # UTF-16 that has been encoded is read back

The units of a character are one unit that is no surrogate, or the two surrogates of a pair, so
reading puts no unit together with one of the next character (`Utf16.characters_unitsOf`). Text that
is written in UTF-16 behind a byte order mark, or in UTF-8, is the text of a string
(`ofStringObject_marked`, `ofStringObject_encode`).
-/

namespace PlacedText.Text

namespace Utf16

variable {unit high low : UInt16} {value : Nat}

/-! ## Writing -/

/-- The units of a character: its code point, or beyond the first `2 ^ 16` code points the two
halves of what is left of it, ten bits each, as a pair of surrogates. -/
def unitsOf (c : Char) : List UInt16 :=
  if c.toNat < 0x10000 then [UInt16.ofNat c.toNat]
  else [UInt16.ofNat (0xd800 + (c.toNat - 0x10000) / 0x400),
    UInt16.ofNat (0xdc00 + (c.toNat - 0x10000) % 0x400)]

/-- The units of a text. -/
def encode (text : String) : List UInt16 := text.toList.flatMap unitsOf

/-- The bytes of some units, the high byte of each first. -/
def bigEndian (units : List UInt16) : Bytes :=
  units.flatMap fun unit => [UInt8.ofNat (unit.toNat / 256), UInt8.ofNat (unit.toNat % 256)]

/-! ## Surrogates -/

theorem isHighSurrogate_iff : isHighSurrogate unit ↔ 0xd800 ≤ unit.toNat ∧ unit.toNat < 0xdc00 := by
  simp [isHighSurrogate, UInt16.le_iff_toNat_le, UInt16.lt_iff_toNat_lt]

theorem isLowSurrogate_iff : isLowSurrogate unit ↔ 0xdc00 ≤ unit.toNat ∧ unit.toNat < 0xe000 := by
  simp [isLowSurrogate, UInt16.le_iff_toNat_le, UInt16.lt_iff_toNat_lt]

/-- A unit that is no surrogate stands alone whatever follows it. -/
theorem characters_single (valid : value < 0xd800 ∨ 0xdfff < value ∧ value < 0x10000)
    (rest : List UInt16) :
    characters (UInt16.ofNat value :: rest) = Char.ofNat value :: characters rest := by
  have same : (UInt16.ofNat value).toNat = value := by
    rw [UInt16.toNat_ofNat']
    omega
  have noHigh : isHighSurrogate (UInt16.ofNat value) = false := by
    rw [← Bool.not_eq_true, isHighSurrogate_iff]
    omega
  have noLow : isLowSurrogate (UInt16.ofNat value) = false := by
    rw [← Bool.not_eq_true, isLowSurrogate_iff]
    omega
  cases rest <;> simp [characters, single, noHigh, noLow, same]

theorem characters_pair (isHigh : isHighSurrogate high) (isLow : isLowSurrogate low)
    (rest : List UInt16) : characters (high :: low :: rest) = join high low :: characters rest := by
  simp [characters, isHigh, isLow]

/-- The halves of a code point are surrogates, and are put together again. -/
theorem characters_halves (above : 0x10000 ≤ value) (below : value < 0x110000)
    (rest : List UInt16) :
    characters (UInt16.ofNat (0xd800 + (value - 0x10000) / 0x400) ::
        UInt16.ofNat (0xdc00 + (value - 0x10000) % 0x400) :: rest) =
      Char.ofNat value :: characters rest := by
  have first : (UInt16.ofNat (0xd800 + (value - 0x10000) / 0x400)).toNat =
      0xd800 + (value - 0x10000) / 0x400 := by
    rw [UInt16.toNat_ofNat']
    omega
  have second : (UInt16.ofNat (0xdc00 + (value - 0x10000) % 0x400)).toNat =
      0xdc00 + (value - 0x10000) % 0x400 := by
    rw [UInt16.toNat_ofNat']
    omega
  have joined : 0x10000 + (0xd800 + (value - 0x10000) / 0x400 - 0xd800) * 1024 +
      (0xdc00 + (value - 0x10000) % 0x400 - 0xdc00) = value := by
    omega
  rw [characters_pair, join, first, second, joined]
  · rw [isHighSurrogate_iff]
    omega
  · rw [isLowSurrogate_iff]
    omega

/-! ## Reading -/

/-- The units of a character are read as that character. -/
theorem characters_unitsOf (c : Char) (rest : List UInt16) :
    characters (unitsOf c ++ rest) = c :: characters rest := by
  have valid : c.toNat < 0xd800 ∨ 0xdfff < c.toNat ∧ c.toNat < 0x110000 := c.valid
  have same : Char.ofNat c.toNat = c := Char.ofNat_toNat c
  unfold unitsOf
  split_ifs with small
  · rw [List.singleton_append, characters_single (by omega), same]
  · simp only [List.cons_append, List.nil_append]
    rw [characters_halves (by omega) (by omega), same]

/-- A text is read back from its code units. -/
theorem decode_encode (text : String) : decode (encode text) = text := by
  have read (chars : List Char) : characters (chars.flatMap unitsOf) = chars := by
    induction chars with
    | nil => rfl
    | cons c chars ih => rw [List.flatMap_cons, characters_unitsOf, ih]
  rw [decode, encode, read, String.ofList_toList]

/-! ## Bytes -/

/-- The number that two bytes spell. -/
theorem toNat_join (high low : UInt8) :
    (high.toUInt16 <<< 8 ||| low.toUInt16).toNat = 256 * high.toNat + low.toNat := by
  have fits : high.toNat * 2 ^ 8 < 2 ^ 16 := by
    have := high.toNat_lt
    omega
  have joined := Nat.shiftLeft_add_eq_or_of_lt low.toNat_lt high.toNat
  rw [Nat.shiftLeft_eq] at joined
  simp only [UInt16.toNat_or, UInt16.toNat_shiftLeft, UInt8.toNat_toUInt16, UInt16.reduceToNat,
    Nat.reduceMod, Nat.shiftLeft_eq]
  rw [Nat.mod_eq_of_lt fits, ← joined, Nat.mul_comm]

/-- Code units are read back from their bytes. -/
theorem units_bigEndian (text : List UInt16) : units (bigEndian text) = text := by
  induction text with
  | nil => rfl
  | cons unit text ih =>
    have below := unit.toNat_lt
    have whole := Nat.div_add_mod unit.toNat 256
    have joined : (UInt8.ofNat (unit.toNat / 256)).toUInt16 <<< 8 |||
        (UInt8.ofNat (unit.toNat % 256)).toUInt16 = unit := by
      apply UInt16.toNat_inj.mp
      rw [toNat_join, UInt8.toNat_ofNat', UInt8.toNat_ofNat']
      omega
    change _ :: units (bigEndian text) = _
    rw [ih, joined]

theorem length_bigEndian (text : List UInt16) : (bigEndian text).length = 2 * text.length := by
  simp [bigEndian, List.length_flatMap, List.map_const', Nat.mul_comm]

end Utf16

/-! ## The text of a string -/

theorem ofStringObject_marked (bytes : Bytes) :
    ofStringObject (0xfe :: 0xff :: bytes) = Utf16.decode (Utf16.units bytes) := rfl

/-- A text is read back from its bytes. -/
theorem Utf8.decode?_encode (text : String) : Utf8.decode? (Utf8.encode text) = some text := by
  have read := Utf8.pieces_encode text []
  have complete : text.toList.mapM some = some text.toList :=
    (List.mapM_pure (m := Option)).trans (congrArg some text.toList.map_id)
  rw [List.append_nil] at read
  simp [Utf8.decode?, read, Utf8.pieces, complete]

/-- No text in UTF-8 begins with a byte order mark, whose first byte begins no character. -/
theorem Utf8.encode_ne_marked (text : String) (rest : Bytes) :
    Utf8.encode text ≠ 0xfe :: 0xff :: rest := by
  intro marked
  have read := Utf8.pieces_encode text []
  rw [marked] at read
  cases whole : text.toList with
  | nil => simp [whole, Utf8.pieces, Utf8.lead] at read
  | cons c chars => simp [whole, Utf8.pieces, Utf8.lead] at read

/-- The UTF-8 of a text never begins with the mark of UTF-16, so it is read back as it is. -/
theorem ofStringObject_encode (text : String) : ofStringObject (Utf8.encode text) = text := by
  unfold ofStringObject
  split
  · rename_i rest marked
    exact absurd marked (Utf8.encode_ne_marked text rest)
  · rw [Utf8.decode?_encode]

end PlacedText.Text
