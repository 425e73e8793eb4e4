import PlacedText.Proofs.Text.Utf8

/-! # Texts that spell out their bytes

A character is read from the bytes that encode it and from no others (`exists_of_pieces_eq_some`).
So bytes are those that encode their text, unless the replacement character stands in it, and a text
without that character is the text of no other bytes (`decodeLossy_eq_iff`).
-/

namespace PlacedText.Text.Utf8

variable {bits owed value : Nat} {low high b : UInt8} {bytes other : Bytes} {c : Char}
  {more : List (Option Char)}

/-! ## The bytes that encode a number -/

theorem toNat_ofNat_of_valid (valid : value < 0xd800 ∨ 0xdfff < value ∧ value < 0x110000) :
    (Char.ofNat value).toNat = value := by
  have isChar : value.isValidChar := valid
  unfold Char.ofNat
  rw [dif_pos isChar]
  rfl

theorem encodeChar_two (above : 0x80 ≤ value) (below : value < 0x800) :
    String.utf8EncodeChar (Char.ofNat value) =
      [UInt8.ofNat (value / 64 % 32 + 192), tail value] := by
  rw [utf8EncodeChar_eq, toNat_ofNat_of_valid (by omega), if_neg (by omega), if_pos (by omega)]

theorem encodeChar_three (above : 0x800 ≤ value) (below : value < 0x10000)
    (valid : value < 0xd800 ∨ 0xdfff < value) :
    String.utf8EncodeChar (Char.ofNat value) =
      [UInt8.ofNat (value / 4096 % 16 + 224), tail (value / 64), tail value] := by
  rw [utf8EncodeChar_eq, toNat_ofNat_of_valid (by omega), if_neg (by omega), if_neg (by omega),
    if_pos (by omega)]

theorem encodeChar_four (above : 0x10000 ≤ value) (below : value < 0x110000) :
    String.utf8EncodeChar (Char.ofNat value) =
      [UInt8.ofNat (value / 262144 % 8 + 240), tail (value / 4096), tail (value / 64),
        tail value] := by
  rw [utf8EncodeChar_eq, toNat_ofNat_of_valid (by omega), if_neg (by omega), if_neg (by omega),
    if_neg (by omega)]

/-! ## The bytes that a character is read from -/

/-- A character that is completed goes on with a byte within the bounds. -/
theorem exists_tail_of_pieces (above : 0x80 ≤ low) (below : high ≤ 0xbf)
    (read : pieces (some ⟨bits, owed, low, high⟩) bytes = some c :: more) :
    ∃ value < 64, ∃ rest, bytes = tail value :: rest ∧ low.toNat ≤ value + 128 ∧
      value + 128 ≤ high.toNat ∧
      pieces (some ⟨bits, owed, low, high⟩) (tail value :: rest) = some c :: more := by
  cases bytes with
  | nil => cases read
  | cons b rest =>
    by_cases between : low ≤ b ∧ b ≤ high
    · simp only [UInt8.le_iff_toNat_le, UInt8.reduceToNat] at between above below
      have same : tail (b.toNat - 128) = b := by
        rw [← UInt8.toNat_inj, toNat_tail]
        omega
      exact ⟨b.toNat - 128, by omega, rest, by rw [same], by omega, by omega, by rwa [same]⟩
    · simp [pieces, between] at read

/-- The byte that completes a character. -/
theorem exists_last_of_pieces (above : 0x80 ≤ low) (below : high ≤ 0xbf)
    (read : pieces (some ⟨bits, 1, low, high⟩) bytes = some c :: more) :
    ∃ value < 64, ∃ rest, bytes = tail value :: rest ∧ low.toNat ≤ value + 128 ∧
      value + 128 ≤ high.toNat ∧ c = Char.ofNat (bits * 64 + value) ∧ more = pieces none rest := by
  obtain ⟨value, small, rest, rfl, least, most, read⟩ := exists_tail_of_pieces above below read
  rw [pieces_completed (tail_between (by omega) (by omega)), Nat.mod_eq_of_lt small] at read
  obtain ⟨same, rfl⟩ := List.cons.inj read
  exact ⟨value, small, rest, rfl, least, most, (Option.some.inj same).symm, rfl⟩

/-- A byte before the one that completes a character. -/
theorem exists_next_of_pieces (above : 0x80 ≤ low) (below : high ≤ 0xbf)
    (read : pieces (some ⟨bits, owed + 2, low, high⟩) bytes = some c :: more) :
    ∃ value < 64, ∃ rest, bytes = tail value :: rest ∧ low.toNat ≤ value + 128 ∧
      value + 128 ≤ high.toNat ∧
      pieces (some ⟨bits * 64 + value, owed + 1, 0x80, 0xbf⟩) rest = some c :: more := by
  obtain ⟨value, small, rest, rfl, least, most, read⟩ := exists_tail_of_pieces above below read
  rw [pieces_continued (tail_between (by omega) (by omega)), Nat.mod_eq_of_lt small] at read
  exact ⟨value, small, rest, rfl, least, most, read⟩

theorem tail_congr {value' : Nat} (same : value % 64 = value' % 64) : tail value = tail value' := by
  unfold tail
  rw [same]

/-- A lead of two bytes that decodes to a character is followed by the tail of that character, and
the rest is decoded from there. -/
theorem exists_of_pieces_two (above : 0xc2 ≤ b.toNat) (below : b.toNat < 0xe0)
    (read : pieces none (b :: bytes) = some c :: more) :
    ∃ rest, b :: bytes = String.utf8EncodeChar c ++ rest ∧ more = pieces none rest := by
  rw [pieces_of_pending (lead_of_two above below)] at read
  obtain ⟨value, small, rest, rfl, -, -, rfl, rfl⟩ :=
    exists_last_of_pieces UInt8.le_rfl UInt8.le_rfl read
  refine ⟨rest, ?_, rfl⟩
  have first : b = UInt8.ofNat (((b.toNat - 0xc0) * 64 + value) / 64 % 32 + 192) := by
    rw [← UInt8.toNat_inj, UInt8.toNat_ofNat']
    omega
  rw [encodeChar_two (by omega) (by omega), ← first,
    tail_congr (show ((b.toNat - 0xc0) * 64 + value) % 64 = value % 64 by omega)]
  rfl

/-- The same for a lead of three bytes. The first tail is bounded by the lead, so neither a shorter
spelling nor a surrogate is let through. -/
theorem exists_of_pieces_three (above : 0xe0 ≤ b.toNat) (below : b.toNat < 0xf0)
    (read : pieces none (b :: bytes) = some c :: more) :
    ∃ rest, b :: bytes = String.utf8EncodeChar c ++ rest ∧ more = pieces none rest := by
  rw [pieces_of_pending (lead_of_three above below)] at read
  obtain ⟨upper, smallUpper, _, rfl, least, most, read⟩ :=
    exists_next_of_pieces (by split <;> decide) (by split <;> decide) read
  obtain ⟨lower, smallLower, rest, rfl, -, -, rfl, rfl⟩ :=
    exists_last_of_pieces UInt8.le_rfl UInt8.le_rfl read
  refine ⟨rest, ?_, rfl⟩
  generalize number : ((b.toNat - 0xe0) * 64 + upper) * 64 + lower = value
  have long : 0x800 ≤ value := by
    simp only [← UInt8.toNat_inj, UInt8.reduceToNat] at least
    split at least <;> simp only [UInt8.reduceToNat] at least <;> omega
  have valid : value < 0xd800 ∨ 0xdfff < value := by
    simp only [← UInt8.toNat_inj, UInt8.reduceToNat] at most
    split at most <;> simp only [UInt8.reduceToNat] at most <;> omega
  have first : b = UInt8.ofNat (value / 4096 % 16 + 224) := by
    rw [← UInt8.toNat_inj, UInt8.toNat_ofNat']
    omega
  rw [encodeChar_three long (by omega) valid, ← first,
    tail_congr (show value / 64 % 64 = upper % 64 by omega),
    tail_congr (show value % 64 = lower % 64 by omega)]
  rfl

/-- The same for a lead of four bytes, whose bounds keep the character below `0x110000`. -/
theorem exists_of_pieces_four (above : 0xf0 ≤ b.toNat) (below : b.toNat < 0xf5)
    (read : pieces none (b :: bytes) = some c :: more) :
    ∃ rest, b :: bytes = String.utf8EncodeChar c ++ rest ∧ more = pieces none rest := by
  rw [pieces_of_pending (lead_of_four above below)] at read
  obtain ⟨upper, smallUpper, _, rfl, least, most, read⟩ :=
    exists_next_of_pieces (by split <;> decide) (by split <;> decide) read
  obtain ⟨middle, smallMiddle, _, rfl, -, -, read⟩ :=
    exists_next_of_pieces UInt8.le_rfl UInt8.le_rfl read
  obtain ⟨lower, smallLower, rest, rfl, -, -, rfl, rfl⟩ :=
    exists_last_of_pieces UInt8.le_rfl UInt8.le_rfl read
  refine ⟨rest, ?_, rfl⟩
  generalize number : (((b.toNat - 0xf0) * 64 + upper) * 64 + middle) * 64 + lower = value
  have long : 0x10000 ≤ value := by
    simp only [← UInt8.toNat_inj, UInt8.reduceToNat] at least
    split at least <;> simp only [UInt8.reduceToNat] at least <;> omega
  have valid : value < 0x110000 := by
    simp only [← UInt8.toNat_inj, UInt8.reduceToNat] at most
    split at most <;> simp only [UInt8.reduceToNat] at most <;> omega
  have first : b = UInt8.ofNat (value / 262144 % 8 + 240) := by
    rw [← UInt8.toNat_inj, UInt8.toNat_ofNat']
    omega
  rw [encodeChar_four long valid, ← first,
    tail_congr (show value / 4096 % 64 = upper % 64 by omega),
    tail_congr (show value / 64 % 64 = middle % 64 by omega),
    tail_congr (show value % 64 = lower % 64 by omega)]
  rfl

/-- A character is read from the bytes that encode it. -/
theorem exists_of_pieces_eq_some (read : pieces none bytes = some c :: more) :
    ∃ rest, bytes = String.utf8EncodeChar c ++ rest ∧ more = pieces none rest := by
  cases bytes with
  | nil => cases read
  | cons b bytes =>
    have invalid (begins : lead b = .invalid) : False := by
      simp only [pieces, begins] at read
      cases read
    by_cases one : b.toNat < 0x80
    · rw [pieces_of_complete (lead_of_one one)] at read
      obtain ⟨same, rfl⟩ := List.cons.inj read
      refine ⟨bytes, ?_, rfl⟩
      rw [← Option.some.inj same, utf8EncodeChar_eq, toNat_ofNat_of_valid (by omega),
        if_pos (by omega), UInt8.ofNat_toNat]
      rfl
    by_cases two : 0xc2 ≤ b.toNat ∧ b.toNat < 0xe0
    · exact exists_of_pieces_two two.1 two.2 read
    by_cases three : 0xe0 ≤ b.toNat ∧ b.toNat < 0xf0
    · exact exists_of_pieces_three three.1 three.2 read
    by_cases four : 0xf0 ≤ b.toNat ∧ b.toNat < 0xf5
    · exact exists_of_pieces_four four.1 four.2 read
    · refine (invalid ?_).elim
      unfold lead
      simp only [UInt8.lt_iff_toNat_lt, UInt8.reduceToNat]
      rw [if_neg one]
      split_ifs <;> first | rfl | omega

/-! ## Texts -/

/-- What was begun comes to a piece, to a replacement at the least. -/
theorem pieces_some_ne_nil {begun : Pending} : pieces (some begun) bytes ≠ [] := by
  induction bytes generalizing begun with
  | nil => exact List.cons_ne_nil _ _
  | cons b bytes ih =>
    unfold pieces
    dsimp only
    split_ifs
    · exact List.cons_ne_nil _ _
    · exact ih
    · exact List.cons_ne_nil _ _

/-- Bytes come to a piece at the least. -/
theorem pieces_cons_ne_nil : pieces none (b :: bytes) ≠ [] := by
  unfold pieces
  dsimp only
  split
  · exact List.cons_ne_nil _ _
  · exact pieces_some_ne_nil
  · exact List.cons_ne_nil _ _

/-- Bytes that decode to characters without a replacement are the encoding of these. By induction on
the characters. -/
theorem encode_ofList_of_pieces {chars : List Char} (read : pieces none bytes = chars.map some) :
    encode (String.ofList chars) = bytes := by
  unfold encode
  rw [String.toList_ofList]
  induction chars generalizing bytes with
  | nil =>
    cases bytes with
    | nil => rfl
    | cons b bytes => exact absurd read pieces_cons_ne_nil
  | cons c chars ih =>
    obtain ⟨rest, rfl, later⟩ := exists_of_pieces_eq_some read
    rw [List.flatMap_cons, ih later.symm]

/-- Bytes whose text has no replacement character are those that encode the text. -/
theorem encode_decodeLossy (clean : replacement ∉ (decodeLossy bytes).toList) :
    encode (decodeLossy bytes) = bytes := by
  refine encode_ofList_of_pieces ?_
  unfold decodeLossy at clean
  rw [String.toList_ofList] at clean
  have valid : ∀ piece ∈ pieces none bytes, some (piece.getD replacement) = piece := by
    intro piece member
    cases piece with
    | none => exact absurd (List.mem_map.mpr ⟨none, member, rfl⟩) clean
    | some c => rfl
  rw [List.map_map]
  exact ((List.map_congr_left valid).trans (List.map_id' _)).symm

/-- **A text without the replacement character is the text of no other bytes.** -/
theorem decodeLossy_eq_iff (clean : replacement ∉ (decodeLossy bytes).toList) :
    decodeLossy bytes = decodeLossy other ↔ bytes = other := by
  constructor
  · intro same
    rw [← encode_decodeLossy clean, same, encode_decodeLossy (same ▸ clean)]
  · exact congrArg decodeLossy

end PlacedText.Text.Utf8
