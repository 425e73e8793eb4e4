import PlacedText.Geometry.Transform
import PlacedText.Scalar.Binary64
import Mathlib.Analysis.SpecialFunctions.Complex.Arg

/-! # Real numbers as scalars

Exact arithmetic: what is said of transforms without rounding is said over the real numbers.
-/

namespace PlacedText

namespace Binary

/-- The value of a finite double. -/
noncomputable def toReal (x : Binary) : ℝ :=
  (if x.negative then -1 else 1) * x.significand * (2 : ℝ) ^ x.exponent

end Binary

namespace ExactScalar

/-- The whole part. -/
noncomputable def truncate (x : ℝ) : Int := if 0 ≤ x then ⌊x⌋ else ⌈x⌉

/-- The nearest whole number; a half goes away from zero. -/
noncomputable def roundAway (x : ℝ) : ℝ := if 0 ≤ x then ⌊x + 1 / 2⌋ else ⌈x - 1 / 2⌉

noncomputable instance : Scalar ℝ where
  decidableLT := inferInstance
  decidableLE := inferInstance
  ofInt := Int.cast
  ofFloat x := ((Binary.ofFloat? x).map Binary.toReal).getD 0
  abs x := |x|
  floor x := ⌊x⌋
  round := roundAway
  sqrt := Real.sqrt
  sin := Real.sin
  cos := Real.cos
  atan2 y x := Complex.arg ⟨x, y⟩
  pi := Real.pi
  emod x y := x - |y| * ⌊x / |y|⌋
  isFinite _ := true
  totalLE x y := decide (x ≤ y)
  clampToInt low high x := max low (min high (truncate x))

theorem truncate_intCast (number : ℤ) : truncate (number : ℝ) = number := by
  unfold truncate
  split
  · exact Int.floor_intCast number
  · exact Int.ceil_intCast number

/-- A whole number is its own rounding, on either side of zero. -/
theorem round_intCast (number : ℤ) : (Scalar.round (number : ℝ) : ℝ) = number := by
  change roundAway _ = _
  unfold roundAway
  split
  · rw [Int.floor_intCast_add]
    norm_num
  · rw [sub_eq_add_neg, Int.ceil_intCast_add]
    norm_num

/-- Rounding goes to a whole number that is at most a half away. -/
theorem exists_round (x : ℝ) :
    ∃ whole : ℤ, Scalar.round x = (whole : ℝ) ∧ |2 * (x - whole)| ≤ 1 := by
  change ∃ whole : ℤ, roundAway x = whole ∧ _
  unfold roundAway
  split
  · refine ⟨⌊x + 1 / 2⌋, rfl, abs_le.mpr ⟨?_, ?_⟩⟩
    · linarith [Int.floor_le (x + 1 / 2)]
    · linarith [Int.lt_floor_add_one (x + 1 / 2)]
  · refine ⟨⌈x - 1 / 2⌉, rfl, abs_le.mpr ⟨?_, ?_⟩⟩
    · linarith [Int.ceil_lt_add_one (x - 1 / 2)]
    · linarith [Int.le_ceil (x - 1 / 2)]

end ExactScalar

/-- The left-to-right sum of the program is the sum of the list, since real addition is associative
and zero is zero with either sign. -/
theorem Scalar.sum_eq (numbers : List ℝ) : sum numbers = numbers.sum := by
  have started (total : ℝ) : numbers.foldl (· + ·) total = total + numbers.sum := by
    induction numbers generalizing total with
    | nil => simp
    | cons number numbers ih =>
      rw [List.foldl_cons, ih, List.sum_cons]
      ring
  change numbers.foldl (· + ·) (-0.0) = _
  rw [started]
  norm_num

/-- The first item with the least key has no larger key than any other. -/
theorem Scalar.firstMinOn_le {β : Type} {key : β → ℝ} {items : List β} {least : β}
    (found : firstMinOn? key items = some least) : ∀ item ∈ items, key least ≤ key item := by
  cases items with
  | nil => cases found
  | cons first items =>
    cases found
    induction items generalizing first with
    | nil => simp
    | cons item items ih =>
      rw [List.foldl_cons]
      intro other member
      split
      · next le =>
        have kept := ih first
        rcases List.mem_cons.mp member with here | later
        · exact here ▸ kept first (.head _)
        · rcases List.mem_cons.mp later with rfl | rest
          · exact (kept first (.head _)).trans (of_decide_eq_true le)
          · exact kept other (.tail _ rest)
      · next greater =>
        have kept := ih item
        have less := not_le.mp fun le => greater (decide_eq_true le)
        rcases List.mem_cons.mp member with rfl | later
        · exact (kept item (.head _)).trans less.le
        · exact kept other later

namespace Transform

/-- Real transforms are composed associatively; doubles would round differently. -/
theorem andThen_assoc (first second third : Transform ℝ) :
    (first.andThen second).andThen third = first.andThen (second.andThen third) := by
  unfold andThen
  congr 1
  all_goals
    dsimp only
    ring

theorem identity_andThen (t : Transform ℝ) : identity.andThen t = t := by
  unfold andThen identity
  norm_num

theorem andThen_identity (t : Transform ℝ) : t.andThen identity = t := by
  unfold andThen identity
  norm_num

end Transform

end PlacedText
