import PlacedText.Proofs.Content.Literal
import PlacedText.Proofs.Content.Prefix

/-! # Content behind numbers

A number that is written reads as one operand. So content behind numbers and `cm` reads as one
operator and then as it does alone, and it is a fault if and only if the content is
(`toOption_operators_behind_literals`).
-/

namespace PlacedText.Content

variable {size : Nat} {rest : Bytes}

/-- Numbers with a blank behind each of them. -/
def blankedBytes (literals : List Literal) : Bytes :=
  (literals.map fun literal => literal.bytes ++ [0x20]).flatten

/-- The numbers that are written, as operands. -/
def numerals (literals : List Literal) : List (Operand Numeral) :=
  literals.map fun literal => .number literal.numeral

/-- Numbers that are written one after the other are read as operands. -/
theorem readFrom_literals (literals : List Literal) (operands : List (Operand Numeral))
    (before : List (Operator Numeral)) :
    readFrom size ⟨[], operands, before⟩ (blankedBytes literals ++ rest) =
      readFrom size ⟨[], (numerals literals).reverse ++ operands, before⟩ rest := by
  induction literals generalizing operands with
  | nil => rfl
  | cons literal literals ih =>
    have blank : isBlank 0x20 := by decide
    have split : blankedBytes (literal :: literals) ++ rest =
        literal.bytes ++ 0x20 :: (blankedBytes literals ++ rest) := by
      simp [blankedBytes]
    rw [split, readFrom_value (literal.lexeme?_bytes (.of_isBlank blank)) rfl, readFrom_blank blank,
      ih]
    simp [numerals]

/-- Content behind numbers, `cm` and blanks reads as one operator and then as it does alone. -/
theorem toOption_operators_behind_literals (literals : List Literal) {blanks : Bytes}
    (all : ∀ b ∈ blanks, isBlank b) (content : Bytes) :
    (operators
        (blankedBytes literals ++ (0x63 :: [0x6d] ++ 0x0a :: (blanks ++ content)))).toOption =
      (operators content).toOption.map (⟨"cm", numerals literals⟩ :: ·) := by
  unfold operators Progress.start
  rw [readFrom_literals, readFrom_keyword (List.all_eq_true.mp (by decide)) (by decide)
    (by decide) (show _ = Lexeme.keyword "cm" from rfl) (by decide), readFrom_blanks all,
    List.append_nil, List.reverse_reverse, toOption_readFrom_content]
  rfl

end PlacedText.Content
