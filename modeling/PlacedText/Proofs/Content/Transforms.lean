import PlacedText.Paged.Content
import PlacedText.Proofs.Content.Numbers
import PlacedText.Proofs.Decimal.Rounding
import PlacedText.Proofs.Decimal.Trimmed
import PlacedText.Proofs.Text.Utf8
import Mathlib.Data.List.Forall2

/-! # The operator of a transform

A transform is written as six words and a name, whatever its entries are
(`Transform.encode_operatorText`). If they are finite, the words are the numbers they are rounded
to, and in front of any content they read as one operator that leaves the rest as it is
(`Transform.operators_behind`).
-/

namespace PlacedText

open Content in
/-- A double that is written, finite or not, is read as part of a transform. -/
theorem readsTransform_trimmed (places : Nat) (x : Float) :
    ReadsTransform (Text.Utf8.encode (Decimal.trimmed places x) ++ [0x20]) := by
  rcases Decimal.trimmed_cases places x with ⟨visible, decimal⟩ | same | same | same
  · exact readsTransform_numeric (Text.Utf8.encode_ne_nil visible)
      (Decimal.isNumeric_of_mem_encode decimal) (by decide)
  · rw [same]
    exact readsTransform_nan
  · rw [same]
    exact readsTransform_infinity
  · rw [same]
    exact readsTransform_negative_infinity

namespace Transform

/-- The entries of a transform are written with a blank behind each of them, and then its name. -/
theorem encode_operatorText_eq (t : Transform Float) :
    Text.Utf8.encode t.operatorText =
      (t.toList.map fun x => Text.Utf8.encode (Decimal.trimmed 6 x) ++ [0x20]).flatten ++
        (0x63 :: [0x6d] ++ [0x0a]) := by
  have joined : t.operatorText = Decimal.trimmed 6 t.a ++ " " ++ Decimal.trimmed 6 t.b ++ " " ++
      Decimal.trimmed 6 t.c ++ " " ++ Decimal.trimmed 6 t.d ++ " " ++ Decimal.trimmed 6 t.e ++
      " " ++ Decimal.trimmed 6 t.f ++ " cm\n" := rfl
  have blank : Text.Utf8.encode " " = [0x20] := rfl
  have ending : Text.Utf8.encode " cm\n" = [0x20] ++ (0x63 :: [0x6d] ++ [0x0a]) := rfl
  rw [joined]
  simp [Text.Utf8.encode_append, blank, ending, Transform.toList]

/-- The operator of a transform is written as six words and its name. -/
theorem encode_operatorText (t : Transform Float) :
    ∃ word, Content.ReadsTransform word ∧
      Text.Utf8.encode t.operatorText = word ++ (0x63 :: [0x6d] ++ [0x0a]) := by
  have entry (x : Float) := readsTransform_trimmed 6 x
  have six := (((((entry t.a).append (entry t.b)).append (entry t.c)).append (entry t.d)).append
    (entry t.e)).append (entry t.f)
  refine ⟨_, six, ?_⟩
  rw [t.encode_operatorText_eq]
  simp [Transform.toList]

/-! ## Finite entries -/

open Content (Literal blankedBytes numerals)

/-- Finite doubles are written as the numbers they are rounded to. -/
theorem exists_rounds_of_finite {xs : List Float}
    (finite : ∀ x ∈ xs, Scalar.isFinite x = true) :
    ∃ literals : List Literal, List.Forall₂ (Decimal.Rounds 6) xs literals ∧
      (xs.map fun x => Text.Utf8.encode (Decimal.trimmed 6 x) ++ [0x20]).flatten =
        blankedBytes literals := by
  induction xs with
  | nil => exact ⟨[], .nil, rfl⟩
  | cons x xs ih =>
    obtain ⟨literal, encoded, first⟩ :=
      Decimal.exists_rounds_trimmed (by decide : 6 ≠ 0) (finite x (.head xs))
    obtain ⟨literals, others, later⟩ := ih fun other member => finite other (.tail x member)
    refine ⟨literal :: literals, .cons first others, ?_⟩
    rw [List.map_cons, List.flatten_cons, encoded, later]
    rfl

/-- A transform of finite doubles is written as the numbers they are rounded to, and its name. -/
theorem exists_rounds {t : Transform Float} (finite : ∀ x ∈ t.toList, Scalar.isFinite x = true) :
    ∃ literals : List Literal, List.Forall₂ (Decimal.Rounds 6) t.toList literals ∧
      Text.Utf8.encode t.operatorText = blankedBytes literals ++ (0x63 :: [0x6d] ++ [0x0a]) := by
  obtain ⟨literals, rounds, written⟩ := exists_rounds_of_finite finite
  exact ⟨literals, rounds, by rw [t.encode_operatorText_eq, written]⟩

/-- Whether content behind some bytes reads as an operator with some numbers and then as it does
alone, and is a fault if and only if it is one alone. -/
def ReadsInFront (front : Bytes) (name : String) (literals : List Literal) : Prop :=
  ∀ rest,
    (Content.operators (front ++ rest)).toOption = (Content.operators rest).toOption.map
      (⟨name, literals.map fun literal => .number literal.numeral⟩ :: ·) ∧
    (Interpreter.operators (α := Float) (front ++ rest)).toOption =
      (Interpreter.operators rest).toOption.map
        (⟨name, literals.map fun literal => .number literal.numeral.value⟩ :: ·) ∧
    (Interpreter.operators (α := ℝ) (front ++ rest)).toOption =
      (Interpreter.operators rest).toOption.map
        (⟨name, literals.map fun literal => .number literal.value⟩ :: ·)

/-- **A transform in front of content is read as one operator.** A transform with finite entries is
written as the numbers its entries are rounded to, and its name. In front of any content and a blank
this reads as `cm` with the six numbers, and the content behind it as it does alone. -/
theorem operators_behind {t : Transform Float}
    (finite : ∀ x ∈ t.toList, Scalar.isFinite x = true) :
    ∃ literals : List Literal, List.Forall₂ (Decimal.Rounds 6) t.toList literals ∧
      Text.Utf8.encode t.operatorText =
        (literals.map fun literal => literal.bytes ++ [0x20]).flatten ++ Text.Utf8.encode "cm\n" ∧
      ReadsInFront (Text.Utf8.encode t.operatorText ++ [0x20]) "cm" literals := by
  obtain ⟨literals, rounds, written⟩ := exists_rounds finite
  refine ⟨literals, rounds, written, fun rest => ?_⟩
  have read : (Content.operators (Text.Utf8.encode t.operatorText ++ [0x20] ++ rest)).toOption =
      (Content.operators rest).toOption.map (⟨"cm", numerals literals⟩ :: ·) := by
    have blank : ∀ b ∈ ([0x20] : Bytes), Content.isBlank b :=
      List.forall_mem_singleton.mpr (by decide)
    rw [← Content.toOption_operators_behind_literals literals blank, written]
    simp only [List.append_assoc, List.cons_append, List.nil_append]
  have valued (α : Type) [Scalar α] : (Interpreter.operators (α := α)
        (Text.Utf8.encode t.operatorText ++ [0x20] ++ rest)).toOption =
      (Interpreter.operators rest).toOption.map
        (⟨"cm", literals.map fun literal => .number literal.numeral.value⟩ :: ·) := by
    unfold Interpreter.operators
    rw [Content.toOption_map, Content.toOption_map, read, Option.map_map, Option.map_map]
    simp [Function.comp_def, Operator.map, numerals, Operand.map]
  refine ⟨read, valued Float, ?_⟩
  simp only [valued ℝ, Literal.value_numeral]

/-- A turn by a quarter of a degree, and a shift by a zero of negative sign and by a number that
is too small to be seen in six places. -/
def slightTurn : Transform Float :=
  ⟨Float.ofBits 0x3fefffec0960384e, Float.ofBits 0x3f71df42eae296e2,
    Float.ofBits 0xbf71df42eae296e2, Float.ofBits 0x3fefffec0960384e,
    Float.ofBits 0x8000000000000000, Float.ofBits 0xbe112e0be826d695⟩

theorem operators_behind_of_slightTurn :
    (∀ x ∈ slightTurn.toList, Scalar.isFinite x = true) ∧
      ∃ literals : List Literal, List.Forall₂ (Decimal.Rounds 6) slightTurn.toList literals ∧
        Text.Utf8.encode slightTurn.operatorText =
          (literals.map fun literal => literal.bytes ++ [0x20]).flatten ++
            Text.Utf8.encode "cm\n" ∧
        ReadsInFront (Text.Utf8.encode slightTurn.operatorText ++ [0x20]) "cm" literals := by
  have finite : ∀ x ∈ slightTurn.toList, Scalar.isFinite x = true := by decide +kernel
  exact ⟨finite, operators_behind finite⟩

end Transform

end PlacedText
