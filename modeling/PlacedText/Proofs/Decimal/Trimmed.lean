import PlacedText.Content.Lexeme
import PlacedText.Decimal.Trimmed

/-! # What short decimals are made of

A short decimal is written with digits, a sign and a point only, unless the double is not finite
(`trimmed_cases`).
-/

namespace PlacedText.Decimal

/-- The characters that a decimal is written with. -/
def IsDecimalChar (c : Char) : Prop := c.isDigit ∨ c = '-' ∨ c = '.'

theorem mem_of_mem_withoutTrailing {c last : Char} {text : List Char}
    (member : c ∈ withoutTrailing last text) : c ∈ text := by
  unfold withoutTrailing at member
  have kept := (List.dropWhile_sublist (· == last)).subset (List.mem_reverse.mp member)
  exact List.mem_reverse.mp kept

theorem isDigit_of_mem_repr {c : Char} {count : Nat} (member : c ∈ (Nat.repr count).toList) :
    c.isDigit := by
  rw [Nat.toList_repr] at member
  exact Nat.isDigit_of_mem_toDigits (by decide) (by decide) member

/-- A padded number has digits only. -/
theorem isDigit_of_mem_padded {c : Char} {width count : Nat}
    (member : c ∈ (padded width count).toList) : c.isDigit := by
  unfold padded at member
  rw [String.toList_append, String.toList_ofList] at member
  rcases List.mem_append.mp member with zero | digit
  · rw [List.eq_of_mem_replicate zero]
    rfl
  · exact isDigit_of_mem_repr digit

/-- A number of units is written by digits and a point. -/
theorem isDecimalChar_of_mem_writeUnits {c : Char} {places units : Nat}
    (member : c ∈ (writeUnits places units).toList) : IsDecimalChar c := by
  unfold writeUnits at member
  split at member
  · exact Or.inl (isDigit_of_mem_repr member)
  · dsimp only at member
    rw [String.toList_append, String.toList_append] at member
    rcases List.mem_append.mp member with whole | fraction
    · rcases List.mem_append.mp whole with digit | point
      · exact Or.inl (isDigit_of_mem_repr digit)
      · exact Or.inr (Or.inr (List.mem_singleton.mp point))
    · exact Or.inl (isDigit_of_mem_padded fraction)

/-- A double is written by digits, a point and a sign, or by one of three words. -/
theorem fixed_cases (places : Nat) (x : Float) :
    (∀ c ∈ (fixed places x).toList, IsDecimalChar c) ∨
      fixed places x = "NaN" ∨ fixed places x = "inf" ∨ fixed places x = "-inf" := by
  unfold fixed
  split
  · next parts finite =>
    refine Or.inl fun c member => ?_
    rw [String.toList_append] at member
    rcases List.mem_append.mp member with sign | digits
    · split at sign
      · exact Or.inr (Or.inl (List.mem_singleton.mp sign))
      · cases sign
    · exact isDecimalChar_of_mem_writeUnits digits
  · refine Or.inr ?_
    split
    · exact Or.inr (Or.inl rfl)
    · split
      · exact Or.inr (Or.inr rfl)
      · exact Or.inl rfl

/-- A short decimal is a sign, digits and a point, or says that the double is not finite. -/
theorem trimmed_cases (places : Nat) (x : Float) :
    ((trimmed places x).toList ≠ [] ∧ ∀ c ∈ (trimmed places x).toList, IsDecimalChar c) ∨
      trimmed places x = "NaN" ∨ trimmed places x = "inf" ∨ trimmed places x = "-inf" := by
  rcases fixed_cases places x with decimal | special
  · refine Or.inl ?_
    unfold trimmed
    dsimp only
    split
    · exact ⟨by decide, fun c member => Or.inl (List.mem_singleton.mp member ▸ rfl)⟩
    · next visible =>
      rw [String.toList_ofList]
      refine ⟨fun none => visible (Or.inr none), fun c member => decimal c ?_⟩
      exact mem_of_mem_withoutTrailing (mem_of_mem_withoutTrailing member)
  · refine Or.inr ?_
    unfold trimmed
    rcases special with same | same | same
    · rw [same]
      exact Or.inl (by decide)
    · rw [same]
      exact Or.inr (Or.inl (by decide))
    · rw [same]
      exact Or.inr (Or.inr (by decide))

/-! ## As bytes -/

theorem utf8EncodeChar_of_digit : ∀ code < 58, 48 ≤ code →
    String.utf8EncodeChar (Char.ofNat code) = [code.toUInt8] ∧ Content.isNumeric code.toUInt8 := by
  decide

/-- A character of a decimal is one byte, which numbers of a content stream may have. -/
theorem utf8EncodeChar_of_isDecimalChar {c : Char} (decimal : IsDecimalChar c) :
    ∃ b, String.utf8EncodeChar c = [b] ∧ Content.isNumeric b := by
  rcases decimal with digit | rfl | rfl
  · obtain ⟨low, high⟩ := Char.isDigit_iff_toNat.mp digit
    have encoded := utf8EncodeChar_of_digit c.toNat (Nat.lt_succ_of_le high) low
    rw [Char.ofNat_toNat] at encoded
    exact ⟨_, encoded⟩
  · exact ⟨0x2d, by decide, by decide⟩
  · exact ⟨0x2e, by decide, by decide⟩

/-- The characters of a decimal are bytes that begin a number or go on with it. -/
theorem isNumeric_of_mem_encode {text : String} (decimal : ∀ c ∈ text.toList, IsDecimalChar c) :
    ∀ b ∈ Text.Utf8.encode text, Content.isNumeric b := by
  intro b member
  obtain ⟨c, inText, ofChar⟩ := List.mem_flatMap.mp member
  obtain ⟨b', encoded, numeric⟩ := utf8EncodeChar_of_isDecimalChar (decimal c inText)
  rw [encoded] at ofChar
  rw [List.mem_singleton.mp ofChar]
  exact numeric

end PlacedText.Decimal
