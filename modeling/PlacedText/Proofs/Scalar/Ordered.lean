import PlacedText.Proofs.Scalar.Real
import Mathlib.Data.Prod.Lex
import Mathlib.Order.Compare

/-! # Comparing and sorting scalars

What doubles and real numbers have in common when they are compared (`Scalar.Ordered`): the
comparisons are transitive, and the total order that sorts them tells any two of them apart. Sorting
by a key is stable, so what is sorted twice is ordered by the second key and then by the first one
(`Scalar.pairwise_sortOn`).
-/

namespace PlacedText

/-- Scalars whose comparisons are orders. A value that is not a number compares with none, itself
included. -/
class Scalar.Ordered (α : Type) [Scalar α] : Prop where
  totalLE_total : ∀ a b : α, totalLE a b || totalLE b a
  totalLE_trans : ∀ a b c : α, totalLE a b → totalLE b c → totalLE a c
  totalLE_antisymm : ∀ a b : α, totalLE a b → totalLE b a → a = b
  le_trans : ∀ a b c : α, a ≤ b → b ≤ c → a ≤ c
  self_of_le : ∀ a b : α, a ≤ b → (a == a) = true ∧ (b == b) = true
  le_of_not_lt : ∀ a b : α, (a == a) = true → (b == b) = true → ¬b < a → a ≤ b

/-! ## Real numbers -/

instance : Scalar.Ordered ℝ where
  totalLE_total a b := by
    simp only [Scalar.totalLE, Bool.or_eq_true, decide_eq_true_eq]
    exact le_total a b
  totalLE_trans a b c := by
    simp only [Scalar.totalLE, decide_eq_true_eq]
    exact le_trans
  totalLE_antisymm a b := by
    simp only [Scalar.totalLE, decide_eq_true_eq]
    exact le_antisymm
  le_trans _ _ _ := le_trans
  self_of_le a b _ := ⟨beq_self_eq_true a, beq_self_eq_true b⟩
  le_of_not_lt _ _ _ _ := not_lt.mp

/-! ## Doubles -/

namespace Binary64

open Float.Model

/-- Where a double stands among those that compare with themselves: by its sign, and then by how
large it is. -/
def place? : UnpackedFloat → Option (ℤ ×ₗ ℤ ×ₗ ℤ)
  | .notANumber => none
  | .infinity .negative => some (toLex (-2, toLex (0, 0)))
  | .finite .negative significand exponent _ => some (toLex (-1, toLex (-exponent, -significand)))
  | .zero _ => some (toLex (0, toLex (0, 0)))
  | .finite .positive significand exponent _ => some (toLex (1, toLex (exponent, significand)))
  | .infinity .positive => some (toLex (2, toLex (0, 0)))

/-- To compare exponents and then mantissas is to compare the pairs lexicographically. -/
theorem then_eq_cmp (e e' : ℤ) (m m' : ℕ) : (compare e e').then (compare m m') =
    cmp (toLex (e, (m : ℤ))) (toLex (e', (m' : ℤ))) := by
  unfold cmp cmpUsing
  rcases lt_trichotomy e e' with less | rfl | more
  · simp [compare_lt_iff_lt.mpr less, Prod.Lex.toLex_lt_toLex, less]
  · rcases lt_trichotomy m m' with less | rfl | more
    · simp [compare_lt_iff_lt.mpr less, Prod.Lex.toLex_lt_toLex, less]
    · simp
    · simp [compare_gt_iff_gt.mpr more, Prod.Lex.toLex_lt_toLex, more, more.not_gt]
  · simp [compare_gt_iff_gt.mpr more, Prod.Lex.toLex_lt_toLex, more, more.not_gt, more.ne, more.ne']

theorem swap_cmp_eq (e e' : ℤ) (m m' : ℕ) :
    (cmp (toLex (e, (m : ℤ))) (toLex (e', (m' : ℤ)))).swap =
      cmp (toLex (-e, -(m : ℤ))) (toLex (-e', -(m' : ℤ))) := by
  rw [cmp_swap]
  unfold cmp cmpUsing
  simp [Prod.Lex.toLex_lt_toLex, eq_comm]

theorem cmp_of_sign (s : ℤ) (p q : ℤ ×ₗ ℤ) : cmp (toLex (s, p)) (toLex (s, q)) = cmp p q := by
  unfold cmp cmpUsing
  simp [Prod.Lex.toLex_lt_toLex]

/-- Doubles are compared by their places. -/
theorem compare_eq (x y : UnpackedFloat) :
    x.compare y = (place? x).bind fun p => (place? y).map fun q => cmp p q := by
  rcases x with (_ | _) | _ | _ | ⟨_ | _, m, e, _⟩ <;>
    rcases y with (_ | _) | _ | _ | ⟨_ | _, m', e', _⟩
  case finite.negative.finite.negative =>
    change some ((compare e e').then (compare m m')).swap =
      some (cmp (toLex (-1, _)) (toLex (-1, _)))
    rw [then_eq_cmp, swap_cmp_eq, cmp_of_sign]
  case finite.positive.finite.positive =>
    change some ((compare e e').then (compare m m')) = some (cmp (toLex (1, _)) (toLex (1, _)))
    rw [then_eq_cmp, cmp_of_sign]
  all_goals rfl

theorem compare_eq_some_iff {x y : UnpackedFloat} {o : Ordering} : x.compare y = some o ↔
    ∃ p, place? x = some p ∧ ∃ q, place? y = some q ∧ cmp p q = o := by
  rw [compare_eq, Option.bind_eq_some_iff]
  refine exists_congr fun p => and_congr_right fun _ => ?_
  rw [Option.map_eq_some_iff]

/-- Doubles are ordered by their places on the line; a NaN has none and is below nothing. -/
theorem le_iff (x y : Float) : x ≤ y ↔
    ∃ p q, place? x.toModel.unpack = some p ∧ place? y.toModel.unpack = some q ∧ p ≤ q := by
  have isLE (p q : ℤ ×ₗ ℤ ×ₗ ℤ) : (cmp p q).isLE = true ↔ p ≤ q := by
    rw [Ordering.isLE_iff_ne_gt, ← not_lt]
    exact (cmp_eq_gt_iff p q).not
  change decide (UnpackedFloat.le _ _ = true) = true ↔ _
  rw [decide_eq_true_eq]
  unfold UnpackedFloat.le
  rw [Option.any_eq_true]
  constructor
  · rintro ⟨o, compared, less⟩
    obtain ⟨p, first, q, second, rfl⟩ := compare_eq_some_iff.mp compared
    exact ⟨p, q, first, second, (isLE p q).mp less⟩
  · rintro ⟨p, q, first, second, le⟩
    exact ⟨_, compare_eq_some_iff.mpr ⟨p, first, q, second, rfl⟩, (isLE p q).mpr le⟩

/-- The strict order is that of the places as well. -/
theorem lt_iff (x y : Float) : x < y ↔
    ∃ p q, place? x.toModel.unpack = some p ∧ place? y.toModel.unpack = some q ∧ p < q := by
  change decide (UnpackedFloat.lt _ _ = true) = true ↔ _
  rw [decide_eq_true_eq]
  unfold UnpackedFloat.lt
  rw [beq_iff_eq, compare_eq_some_iff]
  constructor
  · rintro ⟨p, first, q, second, less⟩
    exact ⟨p, q, first, second, (cmp_eq_lt_iff p q).mp less⟩
  · rintro ⟨p, q, first, second, less⟩
    exact ⟨p, first, q, second, (cmp_eq_lt_iff p q).mpr less⟩

/-- A double is equal to itself just where it has a place, that is, where it is not a NaN. -/
theorem beq_self_iff (x : Float) : (x == x) = true ↔ ∃ p, place? x.toModel.unpack = some p := by
  change UnpackedFloat.beq _ _ = true ↔ _
  unfold UnpackedFloat.beq
  rw [beq_iff_eq, compare_eq_some_iff]
  constructor
  · rintro ⟨p, placed, -⟩
    exact ⟨p, placed⟩
  · rintro ⟨p, placed⟩
    exact ⟨p, placed, p, placed, cmp_self_eq_eq p⟩

/-- Doubles of one rank are the same. -/
theorem rank_injective : Function.Injective rank := by
  intro x y same
  unfold rank at same
  have bounded := x.toBits.toNat_lt
  have bounded' := y.toBits.toNat_lt
  have bits : x.toBits.toNat = y.toBits.toNat := by
    dsimp only at same
    split at same <;> split at same <;> omega
  obtain ⟨⟨bits, valid⟩⟩ := x
  obtain ⟨⟨bits', valid'⟩⟩ := y
  cases UInt64.toNat_inj.mp bits
  rfl

instance : Scalar.Ordered Float where
  totalLE_total a b := by
    simp only [Scalar.totalLE, Bool.or_eq_true, decide_eq_true_eq]
    exact le_total _ _
  totalLE_trans a b c := by
    simp only [Scalar.totalLE, decide_eq_true_eq]
    exact le_trans
  totalLE_antisymm a b := by
    simp only [Scalar.totalLE, decide_eq_true_eq]
    exact fun le ge => rank_injective (le_antisymm le ge)
  le_trans a b c := by
    rw [le_iff, le_iff, le_iff]
    rintro ⟨p, q, first, second, le⟩ ⟨q', r, second', third, le'⟩
    cases second.symm.trans second'
    exact ⟨p, r, first, third, le.trans le'⟩
  self_of_le a b := by
    rw [le_iff, beq_self_iff, beq_self_iff]
    rintro ⟨p, q, first, second, -⟩
    exact ⟨⟨p, first⟩, ⟨q, second⟩⟩
  le_of_not_lt a b := by
    rw [beq_self_iff, beq_self_iff, lt_iff, le_iff]
    rintro ⟨p, first⟩ ⟨q, second⟩ notLess
    exact ⟨p, q, first, second, not_lt.mp fun less => notLess ⟨q, p, second, first, less⟩⟩

end Binary64

/-! ## The smaller and the larger of two scalars -/

namespace Scalar

variable {α β : Type} [Scalar α] [Ordered α] {a b c : α}

/-- The smaller of two numbers is below all that the second one is below. With a NaN in the first
place the answer is the second number. -/
theorem min_le_of_right_le (le : b ≤ c) : min a b ≤ c := by
  unfold Scalar.min
  split
  · exact le
  · next notLess =>
    split
    · next number =>
      exact Ordered.le_trans _ _ _
        (Ordered.le_of_not_lt _ _ number (Ordered.self_of_le _ _ le).1 notLess) le
    · exact le

/-- The greater of two numbers is above all that the second one is above. With a NaN in the first
place the answer is the second number. -/
theorem le_max_of_le_right (le : c ≤ b) : c ≤ max a b := by
  unfold Scalar.max
  split
  · exact le
  · next notLess =>
    split
    · next number =>
      exact Ordered.le_trans _ _ _ le
        (Ordered.le_of_not_lt _ _ (Ordered.self_of_le _ _ le).2 number notLess)
    · exact le

/-! ## Sorting -/

omit [Ordered α] in
theorem sortOn_perm (key : β → α) (items : List β) : (sortOn key items).Perm items :=
  List.mergeSort_perm items _

/-- Items that are sorted by a key ascend, and those of one key are left in the order they had. -/
theorem pairwise_sortOn (key : β → α) (ordered : β → β → Prop) {items : List β}
    (before : items.Pairwise ordered) : (sortOn key items).Pairwise fun item later =>
      totalLE (key item) (key later) ∧ (key item = key later → ordered item later) := by
  have trans (first second third : β) := Ordered.totalLE_trans (key first) (key second) (key third)
  have total (first second : β) := Ordered.totalLE_total (key first) (key second)
  induction items with
  | nil => simp [sortOn]
  | cons item items ih =>
    obtain ⟨ahead, behind⟩ := List.pairwise_cons.mp before
    have ascending := List.pairwise_mergeSort trans total (item :: items)
    have members := List.mergeSort_perm items fun first second => totalLE (key first) (key second)
    have others := ih behind
    unfold sortOn at others ⊢
    -- the first item comes before those that were behind it, unless they are less
    obtain ⟨less, rest, sorted, sortedRest, isLess⟩ := List.mergeSort_cons trans total item items
    rw [sorted] at ascending ⊢
    rw [sortedRest] at others members
    obtain ⟨-, up, across⟩ := List.pairwise_append.mp ascending
    obtain ⟨lessOthers, restOthers, between⟩ := List.pairwise_append.mp others
    refine List.pairwise_append.mpr ⟨lessOthers, List.pairwise_cons.mpr ⟨?_, restOthers⟩, ?_⟩
    · intro later member
      have present := members.mem_iff.mp (List.mem_append_right less member)
      exact ⟨List.rel_of_pairwise_cons up member, fun _ => ahead later present⟩
    · intro first member later laterMember
      rcases List.mem_cons.mp laterMember with rfl | inRest
      · refine ⟨across first member later laterMember, fun same => ?_⟩
        have different := isLess first member
        have reflexive := Ordered.totalLE_total (key later) (key later)
        rw [same, Bool.not_eq_true'] at different
        simp [different] at reflexive
      · exact between first member later inRest

/-- Items that are told apart by their keys and what orders them have one sorted order. -/
theorem sortOn_eq_of_perm (key : β → α) {ordered : β → β → Prop} {items items' : List β}
    (perm : items.Perm items') (before : items.Pairwise ordered) (before' : items'.Pairwise ordered)
    (apart : ∀ item ∈ items, ∀ other ∈ items, key item = key other → ordered item other →
      ordered other item → item = other) :
    sortOn key items = sortOn key items' := by
  refine List.Perm.eq_of_pairwise ?_ (pairwise_sortOn key ordered before)
    (pairwise_sortOn key ordered before')
    (((sortOn_perm key items).trans perm).trans (sortOn_perm key items').symm)
  rintro item other member member' ⟨le, first⟩ ⟨ge, second⟩
  have same := Ordered.totalLE_antisymm _ _ le ge
  have there := (sortOn_perm key items).mem_iff.mp member
  have there' := perm.mem_iff.mpr ((sortOn_perm key items').mem_iff.mp member')
  exact apart item there other there' same (first same) (second same.symm)

end Scalar

end PlacedText
