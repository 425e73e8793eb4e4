import PlacedText.Proofs.Scalar.Ordered

/-! # Stable sorting

When a list is another one sorted by a key, items of one key in the order they had, is said without
a way to sort (`Scalar.StableSort`). Sorting by a key does just that (`Scalar.sortOn_stable`).
-/

namespace PlacedText

/-- Sorting keeps the order of items that may stand in any order. -/
theorem filter_mergeSort {β : Type} {le : β → β → Bool}
    (trans : ∀ first second third, le first second → le second third → le first third)
    (total : ∀ first second, le first second || le second first) {chosen : β → Bool}
    (alike : ∀ first second, chosen first → chosen second → le first second) (items : List β) :
    (items.mergeSort le).filter chosen = items.filter chosen := by
  have level : (items.filter chosen).Pairwise fun first second => le first second = true := by
    refine List.pairwise_of_forall_mem_list fun first isFirst second isSecond => ?_
    exact alike first second (List.mem_filter.mp isFirst).2 (List.mem_filter.mp isSecond).2
  have kept := List.sublist_mergeSort trans total level List.filter_sublist
  have sub := kept.filter chosen
  rw [List.filter_filter] at sub
  simp only [Bool.and_self] at sub
  refine (sub.eq_of_length ?_).symm
  exact ((List.mergeSort_perm items _).filter _).length_eq.symm

namespace Scalar

variable {α β γ : Type} [Scalar α]

/-- Whether a list has the items of another one in ascending order of a key, and the items of every
key in the order that they have there. -/
structure StableSort (key : β → α) (items sorted : List β) : Prop where
  perm : sorted.Perm items
  ascending : sorted.Pairwise fun item later => totalLE (key item) (key later) = true
  stable : ∀ value,
    sorted.filter (fun item => totalLE (key item) value && totalLE value (key item)) =
      items.filter fun item => totalLE (key item) value && totalLE value (key item)

/-- Sorting by a key is stable. -/
theorem sortOn_stable [Ordered α] (key : β → α) (items : List β) :
    StableSort key items (sortOn key items) where
  perm := sortOn_perm key items
  ascending := by
    have unordered : items.Pairwise fun _ _ => True := List.pairwise_of_forall fun _ _ => trivial
    exact (pairwise_sortOn key _ unordered).imp And.left
  stable value := by
    have trans (first second third : β) :=
      Ordered.totalLE_trans (key first) (key second) (key third)
    have total (first second : β) := Ordered.totalLE_total (key first) (key second)
    refine filter_mergeSort trans total (fun first second isFirst isSecond => ?_) items
    rw [Bool.and_eq_true] at isFirst isSecond
    exact Ordered.totalLE_trans _ _ _ isFirst.1 isSecond.2

/-- Items can be changed before they are sorted or after it. -/
theorem sortOn_map (key : γ → α) (f : β → γ) (items : List β) :
    sortOn key (items.map f) = (sortOn (fun item => key (f item)) items).map f := by
  unfold sortOn
  refine (List.map_mergeSort fun first _ second _ => ?_).symm
  rfl

theorem sortOnDescending_perm (key : β → α) (items : List β) :
    (sortOnDescending key items).Perm items :=
  List.mergeSort_perm _ _

theorem sortOnDescending_eq (key : β → ℝ) (items : List β) :
    sortOnDescending key items = sortOn (fun item => -key item) items := by
  unfold sortOnDescending sortOn
  congr 1
  funext first second
  exact decide_eq_decide.mpr neg_le_neg_iff.symm

end Scalar

end PlacedText
