import PlacedText.Proofs.Content.Words
import PlacedText.Proofs.Scalar.Real
import Mathlib.Data.List.TakeWhile
import Mathlib.Data.Nat.Digits.Defs

/-! # Numbers as they are written

A number is written as digits, perhaps behind a minus sign and perhaps with a point among them
(`Literal`). It is read as the decimal that the digits spell (`Literal.numeral?_bytes`), which
stands for the number they are the digits of (`Literal.value_numeral`).
-/

namespace PlacedText.Content

/-- A number as it is written: whether behind a minus sign, the digits of the whole part, and those
behind the point if there is one. -/
structure Literal where
  negative : Bool
  whole : List (Fin 10)
  fraction? : Option (List (Fin 10))
  visible : whole ++ fraction?.getD [] ≠ []

/-- The number that some digits spell. -/
def spelled (digits : List (Fin 10)) : Nat := Nat.ofDigits 10 (digits.map Fin.val).reverse

def digitByte (digit : Fin 10) : UInt8 := ascii '0' + UInt8.ofNat digit.val

namespace Literal

variable (literal : Literal)

def fraction : List (Fin 10) := literal.fraction?.getD []

/-- The bytes behind the sign. -/
def unsignedBytes : Bytes :=
  literal.whole.map digitByte ++
    (literal.fraction?.elim [] fun digits => ascii '.' :: digits.map digitByte)

def bytes : Bytes := (if literal.negative then [ascii '-'] else []) ++ literal.unsignedBytes

/-- The decimal that is written. -/
def numeral : Numeral :=
  ⟨literal.negative, spelled (literal.whole ++ literal.fraction), literal.fraction.length⟩

/-- The number that is written. -/
noncomputable def value : ℝ :=
  (if literal.negative then -1 else 1) *
    (spelled literal.whole + spelled literal.fraction * 10 ^ (-literal.fraction.length : ℤ))

end Literal

/-! ## Digits -/

theorem spelled_append (first second : List (Fin 10)) :
    spelled (first ++ second) = spelled first * 10 ^ second.length + spelled second := by
  unfold spelled
  rw [List.map_append, List.reverse_append, Nat.ofDigits_append, List.length_reverse,
    List.length_map]
  ring

theorem digit_facts : ∀ digit : Fin 10, isDigit (digitByte digit) ∧
    isSign (digitByte digit) = false ∧ digitByte digit ≠ ascii '-' ∧
    (digitByte digit - ascii '0').toNat = digit.val := by
  decide

theorem foldl_digitByte (digits : List (Fin 10)) :
    (digits.map digitByte).foldl (fun value b => 10 * value + (b - ascii '0').toNat) 0 =
      spelled digits := by
  have each : ∀ digit : Fin 10, (digitByte digit - ascii '0').toNat = digit.val :=
    fun digit => (digit_facts digit).2.2.2
  rw [spelled, Nat.ofDigits_eq_foldr, List.foldr_reverse, List.foldl_map, List.foldl_map]
  simp only [each, Nat.cast_id, Nat.add_comm]

theorem isDigit_of_mem_digits {digits : List (Fin 10)} :
    ∀ b ∈ digits.map digitByte, isDigit b := by
  intro b member
  obtain ⟨digit, -, rfl⟩ := List.mem_map.mp member
  exact (digit_facts digit).1

namespace Literal

variable {literal : Literal}

/-- The digits are followed by a point or by nothing. -/
theorem not_isDigit_of_mem_head :
    ∀ b ∈ (literal.fraction?.elim [] fun digits => ascii '.' :: digits.map digitByte).head?,
      isDigit b = false := by
  intro b member
  cases points : literal.fraction? with
  | none =>
    rw [points] at member
    cases member
  | some digits =>
    rw [points] at member
    cases member
    decide

theorem takeWhile_unsigned :
    literal.unsignedBytes.takeWhile isDigit = literal.whole.map digitByte :=
  takeWhile_append_of_all isDigit_of_mem_digits not_isDigit_of_mem_head

/-- The digits behind the point are those of the fraction. -/
theorem takeWhile_fraction : ((literal.unsignedBytes.dropWhile isDigit).drop 1).takeWhile isDigit =
    literal.fraction.map digitByte := by
  unfold unsignedBytes fraction
  rw [dropWhile_append_of_all isDigit_of_mem_digits not_isDigit_of_mem_head]
  cases literal.fraction? with
  | none => rfl
  | some digits => exact List.takeWhile_eq_self_iff.mpr isDigit_of_mem_digits

/-- A byte behind the sign is that of a digit or the point. -/
theorem of_mem_unsigned {b : UInt8} (member : b ∈ literal.unsignedBytes) :
    (∃ digit, digitByte digit = b) ∨ b = ascii '.' := by
  rcases List.mem_append.mp member with inWhole | behind
  · obtain ⟨digit, -, same⟩ := List.mem_map.mp inWhole
    exact .inl ⟨digit, same⟩
  · cases points : literal.fraction? with
    | none =>
      rw [points] at behind
      cases behind
    | some digits =>
      rw [points] at behind
      rcases List.mem_cons.mp behind with here | inFraction
      · exact .inr here
      · obtain ⟨digit, -, same⟩ := List.mem_map.mp inFraction
        exact .inl ⟨digit, same⟩

theorem not_isSign_of_mem_unsigned : ∀ b ∈ literal.unsignedBytes, isSign b = false := by
  intro b member
  obtain ⟨digit, rfl⟩ | rfl := of_mem_unsigned member
  · exact (digit_facts digit).2.1
  · decide

/-- The sign is all that is dropped in front. -/
theorem dropWhile_isSign : literal.bytes.dropWhile isSign = literal.unsignedBytes := by
  have signed : ∀ b ∈ if literal.negative then [ascii '-'] else [], isSign b := by
    intro b member
    split at member
    · rw [List.mem_singleton.mp member]
      decide
    · cases member
  exact dropWhile_append_of_all signed fun b first =>
    not_isSign_of_mem_unsigned b (List.mem_of_mem_head? first)

/-- A literal begins with a minus just where it is negative. -/
theorem head?_bytes : (literal.bytes.head? == some (ascii '-')) = literal.negative := by
  unfold bytes
  cases literal.negative with
  | true => rfl
  | false =>
    rw [if_neg (by decide), List.nil_append, beq_eq_false_iff_ne]
    intro first
    have noSign := not_isSign_of_mem_unsigned _ (List.mem_of_mem_head? first)
    exact absurd noSign (by decide)

/-- What is written is read. -/
theorem numeral?_bytes (literal : Literal) : numeral? literal.bytes = some literal.numeral := by
  have body : (literal.unsignedBytes.takeWhile fun b => !isSign b) = literal.unsignedBytes :=
    List.takeWhile_eq_self_iff.mpr fun b member => by simp [not_isSign_of_mem_unsigned b member]
  unfold numeral?
  rw [dropWhile_isSign, body]
  dsimp only
  rw [takeWhile_unsigned, takeWhile_fraction, ← List.map_append, if_neg, foldl_digitByte,
    head?_bytes, List.length_map]
  · rfl
  · simpa [fraction] using literal.visible

/-- A literal is written by numeric bytes. -/
theorem isNumeric_of_mem_bytes : ∀ b ∈ literal.bytes, isNumeric b := by
  intro b member
  rcases List.mem_append.mp member with sign | behind
  · split at sign
    · rw [List.mem_singleton.mp sign]
      decide
    · cases sign
  · obtain ⟨digit, rfl⟩ | rfl := of_mem_unsigned behind
    · simp [isNumeric, (digit_facts digit).1]
    · decide

theorem bytes_ne_nil (literal : Literal) : literal.bytes ≠ [] := by
  intro none
  have read := numeral?_bytes literal
  rw [none] at read
  cases read

/-- What is written is a lexeme where a word may end. -/
theorem lexeme?_bytes (literal : Literal) {size : Nat} {rest : Bytes} (ends : EndsWord rest) :
    lexeme? size (literal.bytes ++ rest) =
      .ok (some (.value (.number literal.numeral), rest)) := by
  obtain ⟨first, later, written⟩ := List.exists_cons_of_ne_nil literal.bytes_ne_nil
  have numeric : ∀ b ∈ first :: later, isNumeric b := written ▸ isNumeric_of_mem_bytes
  rw [written, lexeme?_numeric numeric ends, ← written, numeral?_bytes]

/-! ## The number itself -/

/-- The decimal stands for the number that is written. -/
theorem value_numeral (literal : Literal) : literal.numeral.value = literal.value := by
  have decimal (digits places : Nat) :
      (OfScientific.ofScientific digits true places : ℝ) = digits * 10 ^ (-places : ℤ) := by
    rw [← Rat.cast_ofScientific, ← Rat.ofScientific_eq_ofScientific, Rat.ofScientific_true_def,
      Rat.mkRat_eq_div, zpow_neg, zpow_natCast, ← div_eq_mul_inv]
    push_cast
    rfl
  have joined : (spelled (literal.whole ++ literal.fraction) : ℝ) *
        10 ^ (-literal.fraction.length : ℤ) =
      spelled literal.whole + spelled literal.fraction * 10 ^ (-literal.fraction.length : ℤ) := by
    rw [spelled_append, zpow_neg, zpow_natCast]
    push_cast
    field_simp
  unfold Numeral.value numeral value
  dsimp only
  rw [decimal, joined]
  cases literal.negative with
  | true => simp
  | false => simp

end Literal

end PlacedText.Content
