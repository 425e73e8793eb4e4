import PlacedText.Proofs.Content.Writing
import PlacedText.Proofs.Text.Utf8

/-! # Names and strings that are read back

Whatever choices a writer of a name or a string made, the lexeme that is read is what was written,
up to where it ends and no further (`WritesName.lexeme?_eq`, `WritesString.lexeme?_eq`,
`WritesHex.lexeme?_eq`).
-/

namespace PlacedText.Content

variable {size depth : Nat} {b high low : UInt8} {contents rest name text : Bytes}

/-! ## Bytes as digits -/

theorem hexDigit?_lt {digit : UInt8} (spelled : hexDigit? b = some digit) : digit < 16 :=
  forall_byte (P := fun b => ∀ digit ∈ hexDigit? b, digit < 16) (by decide +kernel) b digit spelled

theorem isRegular_of_hexDigit? {digit : UInt8} (spelled : hexDigit? b = some digit) :
    isRegular b :=
  forall_byte (P := fun b => (hexDigit? b).isSome → isRegular b) (by decide +kernel) b
    (by rw [spelled]; rfl)

theorem shiftLeft_or_of_code_lt : ∀ first < 16, ∀ second < 16,
    (UInt8.ofNat first <<< 4 ||| UInt8.ofNat second) =
      16 * UInt8.ofNat first + UInt8.ofNat second := by
  decide

theorem shiftLeft_or_of_lt {first second : UInt8} (left : first < 16) (right : second < 16) :
    first <<< 4 ||| second = 16 * first + second := by
  have joined := shiftLeft_or_of_code_lt first.toNat (UInt8.lt_iff_toNat_lt.mp left) second.toNat
    (UInt8.lt_iff_toNat_lt.mp right)
  rwa [UInt8.ofNat_toNat, UInt8.ofNat_toNat] at joined

/-- The digits of a byte are put together to that byte. -/
theorem SpellsByte.joined (spells : SpellsByte high low b) :
    ∃ first second, hexDigit? high = some first ∧ hexDigit? low = some second ∧
      first <<< 4 ||| second = b := by
  obtain ⟨first, second, left, right, rfl⟩ := spells
  exact ⟨first, second, left, right,
    shiftLeft_or_of_lt (hexDigit?_lt left) (hexDigit?_lt right)⟩

/-! ## Names -/

/-- A name is spelled by regular bytes only. -/
theorem WritesName.isRegular (written : WritesName name text) :
    ∀ b ∈ text, Content.isRegular b := by
  induction written with
  | nil => simp
  | plain regular unmarked later ih => exact List.forall_mem_cons.mpr ⟨regular, ih⟩
  | escaped spells later ih =>
    obtain ⟨first, second, left, right, -⟩ := spells
    exact List.forall_mem_cons.mpr ⟨by decide, List.forall_mem_cons.mpr
      ⟨isRegular_of_hexDigit? left, List.forall_mem_cons.mpr ⟨isRegular_of_hexDigit? right, ih⟩⟩⟩

theorem unescapeName_cons (unmarked : b ≠ ascii '#') :
    unescapeName (b :: text) = b :: unescapeName text := by
  match text with
  | [] => rfl
  | [_] => rfl
  | high :: low :: rest => simp [unescapeName, unmarked]

theorem unescapeName_escaped (spells : SpellsByte high low b) :
    unescapeName (ascii '#' :: high :: low :: text) = b :: unescapeName text := by
  obtain ⟨first, second, left, right, joined⟩ := spells.joined
  simp [unescapeName, left, right, joined]

theorem WritesName.unescapeName_eq (written : WritesName name text) : unescapeName text = name := by
  induction written with
  | nil => rfl
  | plain regular unmarked later ih => rw [unescapeName_cons unmarked, ih]
  | escaped spells later ih => rw [unescapeName_escaped spells, ih]

/-- A name is read as the text that its bytes are decoded to. -/
theorem WritesName.lexeme?_decodeLossy (written : WritesName name text) (ends : EndsWord rest) :
    lexeme? size (ascii '/' :: (text ++ rest)) =
      .ok (some (.value (.name (Text.Utf8.decodeLossy name)), rest)) := by
  have lexed : lexeme? size (ascii '/' :: (text ++ rest)) =
      .ok (some (.value (.name (Text.Utf8.decodeLossy
        (unescapeName ((text ++ rest).takeWhile Content.isRegular)))),
        (text ++ rest).dropWhile Content.isRegular)) := rfl
  rw [lexed, takeWhile_append_of_all written.isRegular ends,
    dropWhile_append_of_all written.isRegular ends, written.unescapeName_eq]

theorem WritesName.lexeme?_eq {key : String} (written : WritesName (Text.Utf8.encode key) text)
    (ends : EndsWord rest) :
    lexeme? size (ascii '/' :: (text ++ rest)) = .ok (some (.value (.name key), rest)) := by
  rw [written.lexeme?_decodeLossy ends, Text.Utf8.decodeLossy_encode]

/-! ## Strings between parentheses -/

/-- A byte in front of the contents of a string. -/
def prependByte (b : UInt8) (found? : Option (Bytes × Bytes)) : Option (Bytes × Bytes) :=
  found?.map fun (contents, after) => (b :: contents, after)

theorem stringRest?_plain (unmarked : isMark b = false) :
    stringRest? .plain depth (b :: rest) = prependByte b (stringRest? .plain depth rest) := by
  simp only [isMark, Bool.or_eq_false_iff, beq_eq_false_iff_ne] at unmarked
  simp [stringRest?, unmarked, prependByte]

theorem stringRest?_backslash :
    stringRest? .plain depth (ascii '\\' :: rest) = stringRest? .escaped depth rest := by
  have kept : stringRest? .plain depth (ascii '\\' :: rest) =
      (stringRest? .escaped depth rest).map fun (contents, after) => ([] ++ contents, after) := rfl
  rw [kept]
  cases stringRest? .escaped depth rest <;> rfl

/-- A mark behind a backslash is itself. -/
theorem stringRest?_escaped (marked : isMark b) :
    stringRest? .escaped depth (b :: rest) = prependByte b (stringRest? .plain depth rest) := by
  simp only [isMark, Bool.or_eq_true, beq_iff_eq] at marked
  obtain (rfl | rfl) | rfl := marked
  · rfl
  · rfl
  · rfl

theorem stringRest?_octal_start {digit : UInt8} (spelled : octalDigit? b = some digit) :
    stringRest? .escaped depth (b :: rest) = stringRest? (.octal digit 1) depth rest := by
  simp only [stringRest?, spelled]

theorem stringRest?_octal_next {value digit : UInt8} {digits : Nat} (few : digits < 3)
    (spelled : octalDigit? b = some digit) :
    stringRest? (.octal value digits) depth (b :: rest) =
      stringRest? (.octal (value * 8 + digit) (digits + 1)) depth rest := by
  simp only [stringRest?, few, if_true, spelled]

/-- Behind three digits the byte that they spell is complete. -/
theorem stringRest?_octal_full (value : UInt8) :
    stringRest? (.octal value 3) depth rest =
      prependByte value (stringRest? .plain depth rest) := by
  cases rest with
  | nil => rfl
  | cons b later =>
    simp only [stringRest?, Nat.lt_irrefl, if_false, prependByte]
    split_ifs <;> simp [Function.comp_def]

theorem octalDigits_spell : ∀ b : UInt8,
    octalDigit? (ascii '0' + b / 64) = some (b / 64) ∧
    octalDigit? (ascii '0' + b / 8 % 8) = some (b / 8 % 8) ∧
    octalDigit? (ascii '0' + b % 8) = some (b % 8) ∧
    (b / 64 * 8 + b / 8 % 8) * 8 + b % 8 = b :=
  forall_byte (by decide +kernel)

/-- Three octal digits behind a backslash are the byte that they spell. -/
theorem stringRest?_octalDigits (b : UInt8) :
    stringRest? .escaped depth (octalDigits b ++ rest) =
      prependByte b (stringRest? .plain depth rest) := by
  obtain ⟨first, second, third, joined⟩ := octalDigits_spell b
  unfold octalDigits
  simp only [List.cons_append, List.nil_append]
  rw [stringRest?_octal_start first, stringRest?_octal_next (by decide) second,
    stringRest?_octal_next (by decide) third, joined, stringRest?_octal_full]

/-- However a string is written in parentheses, its contents are read back. By induction on the
spelling. -/
theorem WritesString.stringRest?_eq (written : WritesString contents text) (rest : Bytes) :
    stringRest? .plain 0 (text ++ rest) = some (contents, rest) := by
  induction written with
  | close => rfl
  | plain unmarked later ih =>
    rw [List.cons_append, stringRest?_plain unmarked, ih]
    rfl
  | escaped marked later ih =>
    rw [List.cons_append, List.cons_append, stringRest?_backslash, stringRest?_escaped marked, ih]
    rfl
  | octal later ih =>
    rw [List.cons_append, List.append_assoc, stringRest?_backslash, stringRest?_octalDigits, ih]
    rfl

theorem WritesString.lexeme?_eq (written : WritesString contents text) (rest : Bytes) :
    lexeme? size (ascii '(' :: (text ++ rest)) = .ok (some (.value (.string contents), rest)) := by
  have begins : lexeme? size (ascii '(' :: (text ++ rest)) =
      (lexemeAt size (ascii '(') (text ++ rest)).map some := rfl
  rw [begins, lexemeAt, if_pos rfl, written.stringRest?_eq]
  rfl

/-! ## Strings of hexadecimal digits -/

theorem hexStringRest?_blank {high? : Option UInt8} (blank : isBlank b) :
    hexStringRest? high? (b :: rest) = hexStringRest? high? rest := by
  have other := forall_byte (P := fun b => isBlank b → b ≠ ascii '>' ∧ hexDigit? b = none)
    (by decide +kernel) b blank
  cases high? <;> simp [hexStringRest?, other]

/-- Blanks in a string in hexadecimal are passed over. -/
theorem hexStringRest?_blanks {high? : Option UInt8} {gap : Bytes} (blanks : ∀ c ∈ gap, isBlank c) :
    hexStringRest? high? (gap ++ rest) = hexStringRest? high? rest := by
  induction gap with
  | nil => rfl
  | cons c gap ih =>
    rw [List.cons_append, hexStringRest?_blank (blanks c (.head _))]
    exact ih fun c member => blanks c (.tail _ member)

/-- A digit is no bracket. -/
theorem ne_bracket_of_hexDigit? {digit : UInt8} (spelled : hexDigit? b = some digit) :
    b ≠ ascii '>' ∧ b ≠ ascii '<' := by
  have regular := isRegular_of_hexDigit? spelled
  constructor
  · rintro rfl
    exact absurd regular (by decide)
  · rintro rfl
    exact absurd regular (by decide)

/-- Two digits with blanks between them are a byte. -/
theorem hexStringRest?_byte (spells : SpellsByte high low b) {gap : Bytes}
    (blanks : ∀ c ∈ gap, isBlank c) :
    hexStringRest? none (high :: (gap ++ low :: rest)) =
      prependByte b (hexStringRest? none rest) := by
  obtain ⟨first, second, left, right, joined⟩ := spells.joined
  have begun : hexStringRest? none (high :: (gap ++ low :: rest)) =
      hexStringRest? (some first) (gap ++ low :: rest) := by
    simp [hexStringRest?, ne_bracket_of_hexDigit? left, left]
  rw [begun, hexStringRest?_blanks blanks]
  simp [hexStringRest?, ne_bracket_of_hexDigit? right, right, joined, prependByte]

/-- However a string is written in hexadecimal, its contents are read back. By induction on the
spelling. -/
theorem WritesHex.hexStringRest?_eq (written : WritesHex contents text) (rest : Bytes) :
    hexStringRest? none (text ++ rest) = some (contents, rest) := by
  induction written with
  | close => rfl
  | blank blank later ih => rw [List.cons_append, hexStringRest?_blank blank, ih]
  | byte spells blanks later ih =>
    rw [List.cons_append, List.append_assoc, List.cons_append, hexStringRest?_byte spells blanks,
      ih]
    rfl

/-- The digits of a string cannot be taken for the beginning of a dictionary. -/
theorem WritesHex.head?_ne (written : WritesHex contents text) (rest : Bytes) :
    (text ++ rest).head? ≠ some (ascii '<') := by
  cases written with
  | close => simp; decide
  | blank blank later =>
    intro first
    cases first
    exact absurd blank (by decide)
  | byte spells blanks later =>
    obtain ⟨first, second, left, -⟩ := spells
    intro first
    cases first
    exact (ne_bracket_of_hexDigit? left).2 rfl

/-- Such a string is a lexeme, as it does not begin with the bracket of a dictionary. -/
theorem WritesHex.lexeme?_eq (written : WritesHex contents text) (rest : Bytes) :
    lexeme? size (ascii '<' :: (text ++ rest)) = .ok (some (.value (.string contents), rest)) := by
  have begins : lexeme? size (ascii '<' :: (text ++ rest)) =
      (lexemeAt size (ascii '<') (text ++ rest)).map some := rfl
  rw [begins, lexemeAt, if_neg (by decide), if_neg fun both => written.head?_ne rest both.2,
    if_pos rfl, written.hexStringRest?_eq]
  rfl

end PlacedText.Content
