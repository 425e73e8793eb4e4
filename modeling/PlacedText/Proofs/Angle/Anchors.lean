import Mathlib
import PlacedText.Proofs.Angle.Buckets
import PlacedText.Proofs.Page.Bands
import PlacedText.Proofs.Scalar.Stable

/-! # The anchors of clusters

The clusters that the buckets of a histogram are merged into have their anchors at angles of these
buckets, each at most once and in ascending order, and so at normal directions
(`Clusters.ofHistogram_normal`). A bucket gives its weight to one of the anchors or is an anchor
itself (`Clusters.merge_cases`).
-/

namespace PlacedText

namespace Clusters

/-- Clusters with anchors at normal directions, each once and in ascending order. -/
structure Normal (clusters : Clusters ℝ) : Prop where
  ascending : clusters.angles.Pairwise (· < ·)
  normal : ∀ angle ∈ clusters.angles, -180 < angle ∧ angle ≤ 180

variable {threshold : ℝ}

/-- An anchor that is found is closer than the threshold. -/
theorem nearestWithin_eq_some {angle : ℝ} {anchors : List (WeightedAngle ℝ)} {index : Nat}
    (found : nearestWithin? threshold angle anchors = some index) :
    ∃ anchor, anchors[index]? = some anchor ∧ Angle.distance anchor.angle angle < threshold := by
  unfold nearestWithin? at found
  obtain ⟨⟨far, position⟩, least, rfl⟩ := Option.map_eq_some_iff.mp found
  have member := Scalar.mem_of_firstMinOn least
  rw [List.mem_filter, decide_eq_true_eq] at member
  obtain ⟨⟨anchor, _⟩, present, same⟩ := List.mem_map.mp member.1
  cases same
  exact ⟨anchor, List.mk_mem_zipIdx_iff_getElem?.mp present, member.2⟩

/-- Where no anchor is found, none is closer than the threshold. -/
theorem nearestWithin_eq_none {angle : ℝ} {anchors : List (WeightedAngle ℝ)}
    (none : nearestWithin? threshold angle anchors = none) :
    ∀ anchor ∈ anchors, threshold ≤ Angle.distance anchor.angle angle := by
  intro anchor member
  unfold nearestWithin? at none
  rw [Option.map_eq_none_iff, Scalar.firstMinOn_eq_none_iff, List.filter_eq_nil_iff] at none
  obtain ⟨index, present⟩ := List.getElem?_of_mem member
  have apart := none (Angle.distance anchor.angle angle, index)
    (List.mem_map.mpr ⟨(anchor, index), List.mk_mem_zipIdx_iff_getElem?.mpr present, rfl⟩)
  rw [decide_eq_true_eq] at apart
  exact not_lt.mp apart

/-- An entry gives its weight to an anchor within the threshold, or is an anchor itself if there is
none. -/
theorem merge_cases (threshold : ℝ) (anchors : List (WeightedAngle ℝ)) (entry : WeightedAngle ℝ) :
    (∃ before anchor after, anchors = before ++ anchor :: after ∧
      Angle.distance anchor.angle entry.angle < threshold ∧
      merge threshold anchors entry =
        before ++ { anchor with weight := anchor.weight + entry.weight } :: after) ∨
    ((∀ anchor ∈ anchors, threshold ≤ Angle.distance anchor.angle entry.angle) ∧
      merge threshold anchors entry = anchors ++ [entry]) := by
  unfold merge
  split
  · next index found =>
    obtain ⟨anchor, present, near⟩ := nearestWithin_eq_some found
    obtain ⟨bounded, rfl⟩ := List.getElem?_eq_some_iff.mp present
    obtain ⟨before, anchor, after, split, length, modified⟩ := List.exists_of_modify
      (fun anchor : WeightedAngle ℝ => { anchor with weight := anchor.weight + entry.weight })
      bounded
    refine .inl ⟨before, anchor, after, split, ?_, modified⟩
    have here : anchors[index]? = some anchor := by
      rw [split, ← length, List.getElem?_append_right le_rfl, Nat.sub_self,
        List.getElem?_cons_zero]
    cases present.symm.trans here
    exact near
  · next none => exact .inr ⟨nearestWithin_eq_none none, rfl⟩

/-- An entry that is merged adds its angle to those of the anchors or adds none. -/
theorem merge_angles (anchors : List (WeightedAngle ℝ)) (entry : WeightedAngle ℝ) :
    ((merge threshold anchors entry).map WeightedAngle.angle).Sublist
      (anchors.map WeightedAngle.angle ++ [entry.angle]) := by
  rcases merge_cases threshold anchors entry with ⟨before, anchor, after, rfl, _, merged⟩ |
    ⟨_, merged⟩
  · rw [merged]
    simp
  · rw [merged]
    simp

/-- Merging adds no angle but those of the entries, and keeps the order in which they became
anchors. -/
theorem foldl_merge_angles (anchors entries : List (WeightedAngle ℝ)) :
    ((entries.foldl (merge threshold) anchors).map WeightedAngle.angle).Sublist
      (anchors.map WeightedAngle.angle ++ entries.map WeightedAngle.angle) := by
  induction entries generalizing anchors with
  | nil => simp
  | cons entry entries ih =>
    refine (ih (merge threshold anchors entry)).trans ?_
    rw [List.map_cons, ← List.singleton_append, ← List.append_assoc]
    exact (merge_angles anchors entry).append_right _

theorem sortOn_angles (anchors : List (WeightedAngle ℝ)) :
    ((Scalar.sortOn WeightedAngle.angle anchors).map WeightedAngle.angle).Pairwise (· ≤ ·) := by
  refine List.pairwise_map.mpr ((Scalar.sortOn_stable _ _).ascending.imp ?_)
  exact fun le => of_decide_eq_true le

/-- The anchors are those that the buckets are merged into, the heaviest first. -/
theorem ofHistogram_perm (histogram : Histogram ℝ) (threshold : ℝ) :
    (ofHistogram histogram threshold).anchors.Perm
      ((Scalar.sortOnDescending WeightedAngle.weight histogram.entries).foldl (merge threshold)
        []) :=
  Scalar.sortOn_perm _ _

/-- Each anchor stands at the angle of a bucket of its own. -/
theorem ofHistogram_subperm (histogram : Histogram ℝ) (threshold : ℝ) :
    (ofHistogram histogram threshold).angles.Subperm
      (histogram.entries.map WeightedAngle.angle) := by
  have anchored := (ofHistogram_perm histogram threshold).map WeightedAngle.angle
  have buckets := (Scalar.sortOnDescending_perm WeightedAngle.weight histogram.entries).map
    WeightedAngle.angle
  exact anchored.subperm.trans ((foldl_merge_angles [] _).subperm.trans buckets.subperm)

/-- The anchors come out in ascending order without a repetition: they are distinct buckets, sorted
at the end. -/
theorem ofHistogram_ascending (histogram : Histogram ℝ) (threshold : ℝ) :
    (ofHistogram histogram threshold).angles.Pairwise (· < ·) := by
  obtain ⟨angles, same, among⟩ := ofHistogram_subperm histogram threshold
  have distinct : (histogram.entries.map WeightedAngle.angle).Nodup :=
    List.pairwise_map.mpr (histogram.entries_ascending.imp fun less => less.ne)
  have once := same.nodup_iff.mp (distinct.sublist among)
  exact ((sortOn_angles _).and once).imp fun ⟨le, different⟩ => lt_of_le_of_ne le different

/-- **The anchors of a histogram.** -/
theorem ofHistogram_normal {histogram : Histogram ℝ} (inRange : histogram.InRange)
    (threshold : ℝ) : (ofHistogram histogram threshold).Normal where
  ascending := ofHistogram_ascending histogram threshold
  normal angle member := by
    obtain ⟨entry, present, rfl⟩ :=
      List.mem_map.mp ((ofHistogram_subperm histogram threshold).subset member)
    exact inRange.normal entry present

end Clusters

end PlacedText
