import PlacedText.Text.Utf8
import Mathlib.Tactic.Common

/-! # Text that has been encoded is read back

A character is begun by its first byte and completed by the bytes that are owed, whose bounds leave
out no character (`pieces_encodeChar`). So no piece of an encoded text is invalid, and reading the
text puts nothing in place of its characters (`decodeLossy_encode`).
-/

namespace PlacedText.Text.Utf8

variable {bits owed value : Nat} {low high b : UInt8} {rest : Bytes}

/-! ## First bytes -/

theorem lead_of_one (below : b.toNat < 0x80) : lead b = .complete (Char.ofNat b.toNat) := by
  unfold lead
  rw [if_pos (UInt8.lt_iff_toNat_lt.mpr below)]

/-- A byte from `0xc2` on leads two bytes; those below would spell what one byte spells. -/
theorem lead_of_two (above : 0xc2 ≤ b.toNat) (below : b.toNat < 0xe0) :
    lead b = .pending ⟨b.toNat - 0xc0, 1, 0x80, 0xbf⟩ := by
  have complete : ¬b < 0x80 := by
    simp only [UInt8.lt_iff_toNat_lt, UInt8.reduceToNat]
    omega
  have overlong : ¬b < 0xc2 := by
    simp only [UInt8.lt_iff_toNat_lt, UInt8.reduceToNat]
    omega
  unfold lead
  rw [if_neg complete, if_neg overlong, if_pos (UInt8.lt_iff_toNat_lt.mpr below)]

/-- A byte from `0xe0` on leads three bytes, the first tail bounded to leave out shorter spellings
and surrogates. -/
theorem lead_of_three (above : 0xe0 ≤ b.toNat) (below : b.toNat < 0xf0) :
    lead b = .pending ⟨b.toNat - 0xe0, 2, if b = 0xe0 then 0xa0 else 0x80,
      if b = 0xed then 0x9f else 0xbf⟩ := by
  have longer (bound : UInt8) (small : bound.toNat ≤ 0xe0) : ¬b < bound := by
    rw [UInt8.lt_iff_toNat_lt]
    omega
  unfold lead
  rw [if_neg (longer 0x80 (by decide)), if_neg (longer 0xc2 (by decide)),
    if_neg (longer 0xe0 (by decide)), if_pos (UInt8.lt_iff_toNat_lt.mpr below)]

/-- A byte from `0xf0` on leads four bytes, the first tail bounded to leave out shorter spellings
and numbers that are too great. -/
theorem lead_of_four (above : 0xf0 ≤ b.toNat) (below : b.toNat < 0xf5) :
    lead b = .pending ⟨b.toNat - 0xf0, 3, if b = 0xf0 then 0x90 else 0x80,
      if b = 0xf4 then 0x8f else 0xbf⟩ := by
  have longer (bound : UInt8) (small : bound.toNat ≤ 0xf0) : ¬b < bound := by
    rw [UInt8.lt_iff_toNat_lt]
    omega
  unfold lead
  rw [if_neg (longer 0x80 (by decide)), if_neg (longer 0xc2 (by decide)),
    if_neg (longer 0xe0 (by decide)), if_neg (longer 0xf0 (by decide)),
    if_pos (UInt8.lt_iff_toNat_lt.mpr below)]

/-! ## The bytes that are owed -/

/-- The byte that carries the last six bits of a number behind the first byte of a character. -/
def tail (value : Nat) : UInt8 := UInt8.ofNat (value % 64 + 128)

theorem toNat_tail (value : Nat) : (tail value).toNat = value % 64 + 128 := by
  rw [tail, UInt8.toNat_ofNat']
  omega

theorem tail_between (above : low.toNat ≤ value % 64 + 128)
    (below : value % 64 + 128 ≤ high.toNat) : low ≤ tail value ∧ tail value ≤ high := by
  rw [UInt8.le_iff_toNat_le, UInt8.le_iff_toNat_le, toNat_tail]
  exact ⟨above, below⟩

theorem tail_bounds (value : Nat) : 0x80 ≤ tail value ∧ tail value ≤ 0xbf := by
  apply tail_between <;> simp only [UInt8.reduceToNat] <;> omega

/-- A byte within the bounds adds six bits to a character that owes more. -/
theorem pieces_continued (between : low ≤ tail value ∧ tail value ≤ high) :
    pieces (some ⟨bits, owed + 2, low, high⟩) (tail value :: rest) =
      pieces (some ⟨bits * 64 + value % 64, owed + 1, 0x80, 0xbf⟩) rest := by
  have added : (tail value).toNat % 64 = value % 64 := by
    rw [toNat_tail]
    omega
  simp [pieces, between, added]

/-- The last byte completes the character. -/
theorem pieces_completed (between : low ≤ tail value ∧ tail value ≤ high) :
    pieces (some ⟨bits, 1, low, high⟩) (tail value :: rest) =
      some (Char.ofNat (bits * 64 + value % 64)) :: pieces none rest := by
  have added : (tail value).toNat % 64 = value % 64 := by
    rw [toNat_tail]
    omega
  simp [pieces, between, added]

theorem pieces_of_complete {c : Char} (begins : lead b = .complete c) :
    pieces none (b :: rest) = some c :: pieces none rest := by
  simp only [pieces, begins]

theorem pieces_of_pending {begun : Pending} (begins : lead b = .pending begun) :
    pieces none (b :: rest) = pieces (some begun) rest := by
  simp only [pieces, begins]

/-! ## Characters -/

/-- Two bytes are put together to the value that they spell. -/
theorem pieces_two (above : 0x80 ≤ value) (below : value < 0x800) :
    pieces none (UInt8.ofNat (value / 64 % 32 + 192) :: tail value :: rest) =
      some (Char.ofNat value) :: pieces none rest := by
  have begun : (UInt8.ofNat (value / 64 % 32 + 192)).toNat = value / 64 + 0xc0 := by
    rw [UInt8.toNat_ofNat']
    omega
  rw [pieces_of_pending (lead_of_two (by omega) (by omega)), pieces_completed (tail_bounds value),
    begun]
  congr 3
  omega

/-- Three bytes are put together, if they spell no surrogate. -/
theorem pieces_three (above : 0x800 ≤ value) (below : value < 0x10000)
    (valid : value < 0xd800 ∨ 0xdfff < value) :
    pieces none (UInt8.ofNat (value / 4096 % 16 + 224) :: tail (value / 64) :: tail value :: rest) =
      some (Char.ofNat value) :: pieces none rest := by
  have begun : (UInt8.ofNat (value / 4096 % 16 + 224)).toNat = value / 4096 + 0xe0 := by
    rw [UInt8.toNat_ofNat']
    omega
  rw [pieces_of_pending (lead_of_three (by omega) (by omega)), pieces_continued,
    pieces_completed (tail_bounds value), begun]
  · congr 3
    omega
  · simp only [← UInt8.toNat_inj, begun]
    apply tail_between
    · split <;> simp only [UInt8.reduceToNat] at * <;> omega
    · split <;> simp only [UInt8.reduceToNat] at * <;> omega

/-- Four bytes are put together. -/
theorem pieces_four (above : 0x10000 ≤ value) (below : value < 0x110000) :
    pieces none (UInt8.ofNat (value / 262144 % 8 + 240) :: tail (value / 4096) ::
        tail (value / 64) :: tail value :: rest) =
      some (Char.ofNat value) :: pieces none rest := by
  have begun : (UInt8.ofNat (value / 262144 % 8 + 240)).toNat = value / 262144 + 0xf0 := by
    rw [UInt8.toNat_ofNat']
    omega
  rw [pieces_of_pending (lead_of_four (by omega) (by omega)), pieces_continued,
    pieces_continued (tail_bounds _), pieces_completed (tail_bounds value), begun]
  · congr 3
    omega
  · simp only [← UInt8.toNat_inj, begun]
    apply tail_between
    · split <;> simp only [UInt8.reduceToNat] at * <;> omega
    · split <;> simp only [UInt8.reduceToNat] at * <;> omega

theorem utf8EncodeChar_eq (c : Char) :
    String.utf8EncodeChar c =
      if c.toNat ≤ 127 then [UInt8.ofNat c.toNat]
      else if c.toNat ≤ 2047 then [UInt8.ofNat (c.toNat / 64 % 32 + 192), tail c.toNat]
      else if c.toNat ≤ 65535 then
        [UInt8.ofNat (c.toNat / 4096 % 16 + 224), tail (c.toNat / 64), tail c.toNat]
      else [UInt8.ofNat (c.toNat / 262144 % 8 + 240), tail (c.toNat / 4096), tail (c.toNat / 64),
        tail c.toNat] := rfl

/-- The bytes of a character are read as that character. -/
theorem pieces_encodeChar (c : Char) (rest : Bytes) :
    pieces none (String.utf8EncodeChar c ++ rest) = some c :: pieces none rest := by
  have valid : c.toNat < 0xd800 ∨ 0xdfff < c.toNat ∧ c.toNat < 0x110000 := c.valid
  have same : Char.ofNat c.toNat = c := Char.ofNat_toNat c
  have small (one : c.toNat ≤ 127) : (UInt8.ofNat c.toNat).toNat = c.toNat := by
    rw [UInt8.toNat_ofNat']
    omega
  rw [utf8EncodeChar_eq]
  split_ifs with one two three
  · rw [List.singleton_append, pieces_of_complete (lead_of_one (by omega)), small one, same]
  · rw [List.cons_append, List.singleton_append, pieces_two (by omega) (by omega), same]
  · simp only [List.cons_append, List.nil_append]
    rw [pieces_three (by omega) (by omega) (by omega), same]
  · simp only [List.cons_append, List.nil_append]
    rw [pieces_four (by omega) (by omega), same]

/-- Reading bytes puts nothing in place of the characters they encode. -/
theorem pieces_encode (text : String) (rest : Bytes) :
    pieces none (encode text ++ rest) = text.toList.map some ++ pieces none rest := by
  unfold encode
  induction text.toList with
  | nil => rfl
  | cons c chars ih =>
    rw [List.flatMap_cons, List.append_assoc, pieces_encodeChar, ih]
    rfl

theorem decodeLossy_encode (text : String) : decodeLossy (encode text) = text := by
  have read := pieces_encode text []
  rw [List.append_nil] at read
  simp [decodeLossy, read, pieces, Function.comp_def]

theorem encode_append (first second : String) :
    encode (first ++ second) = encode first ++ encode second := by
  unfold encode
  rw [String.toList_append, List.flatMap_append]

theorem encode_ne_nil {text : String} (visible : text.toList ≠ []) : encode text ≠ [] := by
  intro none
  have read := decodeLossy_encode text
  rw [none] at read
  exact visible (congrArg String.toList read.symm)

end PlacedText.Text.Utf8
