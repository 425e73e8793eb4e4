import PlacedText.Proofs.Angle.Anchors

/-! # Merging a histogram into clusters

The buckets of a histogram are merged one after the other, the heaviest first. What a single bucket
does to the anchors (`Clusters.merge_cases`) keeps them apart, near to every bucket that was merged
and as heavy as all of these together (`Clusters.Merged`), and so do all buckets
(`Clusters.ofHistogram_merges`).
-/

namespace PlacedText

namespace Histogram

/-- Whether a bucket is heavier than every other one, or as heavy and at a lower angle. -/
def Heaviest (histogram : Histogram ℝ) (entry : WeightedAngle ℝ) : Prop :=
  entry ∈ histogram.entries ∧ ∀ other ∈ histogram.entries,
    other.weight < entry.weight ∨ other.weight = entry.weight ∧ entry.angle ≤ other.angle

end Histogram

namespace Clusters

variable {threshold : ℝ} {entries anchors : List (WeightedAngle ℝ)}

/-- What holds of the anchors that some entries have been merged into: they are angles of entries,
none within the threshold of another one, every entry is at an anchor or within the threshold of
one, and no weight is lost. -/
structure Merged (threshold : ℝ) (entries anchors : List (WeightedAngle ℝ)) : Prop where
  apart : (anchors.map WeightedAngle.angle).Pairwise fun angle other =>
    threshold ≤ Angle.distance angle other
  near : ∀ entry ∈ entries, ∃ angle ∈ anchors.map WeightedAngle.angle,
    angle = entry.angle ∨ Angle.distance angle entry.angle < threshold
  own : ∀ anchor ∈ anchors, ∃ entry ∈ entries,
    entry.angle = anchor.angle ∧ entry.weight ≤ anchor.weight
  total : (anchors.map WeightedAngle.weight).sum = (entries.map WeightedAngle.weight).sum

theorem merged_nil (threshold : ℝ) : Merged threshold [] [] where
  apart := .nil
  near := nofun
  own := nofun
  total := rfl

/-- One more entry is merged into an anchor. The angles stay, so what is said of these stays true;
the anchor is heavier than before and the total grows by the entry. -/
theorem Merged.donate {before after : List (WeightedAngle ℝ)} {anchor entry : WeightedAngle ℝ}
    (merged : Merged threshold entries (before ++ anchor :: after)) (weighed : 0 ≤ entry.weight)
    (close : Angle.distance anchor.angle entry.angle < threshold) :
    Merged threshold (entries ++ [entry])
      (before ++ { anchor with weight := anchor.weight + entry.weight } :: after) := by
  have angles : (before ++ { anchor with weight := anchor.weight + entry.weight } :: after).map
      WeightedAngle.angle = (before ++ anchor :: after).map WeightedAngle.angle := by simp
  refine ⟨?_, ?_, ?_, ?_⟩
  · rw [angles]
    exact merged.apart
  · rw [angles]
    intro other member
    rcases List.mem_append.mp member with earlier | here
    · exact merged.near other earlier
    · cases List.mem_singleton.mp here
      exact ⟨anchor.angle, by simp, .inr close⟩
  · have source : ∀ other ∈ before ++ anchor :: after, ∃ entry' ∈ entries ++ [entry],
        entry'.angle = other.angle ∧ entry'.weight ≤ other.weight := by
      intro other member
      obtain ⟨own, present, same, least⟩ := merged.own other member
      exact ⟨own, List.mem_append_left _ present, same, least⟩
    intro other member
    rcases List.mem_append.mp member with inFront | behind
    · exact source other (List.mem_append_left _ inFront)
    · rcases List.mem_cons.mp behind with rfl | later
      · obtain ⟨own, present, same, least⟩ := source anchor (by simp)
        exact ⟨own, present, same, least.trans (le_add_of_nonneg_right weighed)⟩
      · exact source other (List.mem_append_right _ (.tail _ later))
  · have total := merged.total
    simp only [List.map_append, List.map_cons, List.map_nil, List.sum_append, List.sum_cons,
      List.sum_nil] at total ⊢
    linarith

/-- One more entry becomes an anchor. It is at least the threshold away from all others, and it is
its own bucket. -/
theorem Merged.append (merged : Merged threshold entries anchors) {entry : WeightedAngle ℝ}
    (far : ∀ anchor ∈ anchors, threshold ≤ Angle.distance anchor.angle entry.angle) :
    Merged threshold (entries ++ [entry]) (anchors ++ [entry]) := by
  refine ⟨?_, ?_, ?_, ?_⟩
  · rw [List.map_append, List.pairwise_append]
    refine ⟨merged.apart, List.pairwise_singleton _ _, fun angle member other here => ?_⟩
    obtain ⟨anchor, present, rfl⟩ := List.mem_map.mp member
    cases List.mem_singleton.mp here
    exact far anchor present
  · rw [List.map_append]
    intro other member
    rcases List.mem_append.mp member with earlier | here
    · obtain ⟨angle, present, close⟩ := merged.near other earlier
      exact ⟨angle, List.mem_append_left _ present, close⟩
    · cases List.mem_singleton.mp here
      exact ⟨entry.angle, by simp, .inl rfl⟩
  · intro anchor member
    rcases List.mem_append.mp member with earlier | here
    · obtain ⟨own, present, same, least⟩ := merged.own anchor earlier
      exact ⟨own, List.mem_append_left _ present, same, least⟩
    · cases List.mem_singleton.mp here
      exact ⟨entry, by simp, rfl, le_rfl⟩
  · rw [List.map_append, List.map_append, List.sum_append, List.sum_append, merged.total]

/-- One more entry is merged. -/
theorem Merged.merge (merged : Merged threshold entries anchors) {entry : WeightedAngle ℝ}
    (weighed : 0 ≤ entry.weight) :
    Merged threshold (entries ++ [entry]) (merge threshold anchors entry) := by
  rcases merge_cases threshold anchors entry with ⟨before, anchor, after, rfl, close, result⟩ |
    ⟨far, result⟩
  · rw [result]
    exact merged.donate weighed close
  · rw [result]
    exact merged.append far

/-- All entries are merged, one after the other. -/
theorem Merged.foldl {more : List (WeightedAngle ℝ)} (merged : Merged threshold entries anchors)
    (weighed : ∀ entry ∈ more, 0 ≤ entry.weight) :
    Merged threshold (entries ++ more) (more.foldl (Clusters.merge threshold) anchors) := by
  induction more generalizing entries anchors with
  | nil => simpa using merged
  | cons entry more ih =>
    obtain ⟨here, later⟩ := List.forall_mem_cons.mp weighed
    have rest := ih (merged.merge here) later
    rwa [List.append_assoc, List.singleton_append] at rest

/-- The order of the entries and that of the anchors make no difference. -/
theorem Merged.perm {entries' anchors' : List (WeightedAngle ℝ)}
    (merged : Merged threshold entries anchors) (same : entries.Perm entries')
    (same' : anchors.Perm anchors') : Merged threshold entries' anchors' where
  apart := merged.apart.perm (same'.map _) fun apart => by rwa [Angle.distance_comm]
  near entry member := by
    obtain ⟨angle, present, close⟩ := merged.near entry (same.mem_iff.mpr member)
    exact ⟨angle, (same'.map _).mem_iff.mp present, close⟩
  own anchor member := by
    obtain ⟨entry, present, source⟩ := merged.own anchor (same'.mem_iff.mpr member)
    exact ⟨entry, same.mem_iff.mp present, source⟩
  total := by
    rw [← (same'.map _).sum_eq, merged.total, (same.map _).sum_eq]

/-- Anchors stay where they are. -/
theorem angle_mem_foldl_merge (anchors entries : List (WeightedAngle ℝ)) :
    ∀ angle ∈ anchors.map WeightedAngle.angle,
      angle ∈ (entries.foldl (Clusters.merge threshold) anchors).map WeightedAngle.angle := by
  induction entries generalizing anchors with
  | nil => exact fun _ member => member
  | cons entry entries ih =>
    intro angle member
    refine ih _ angle ?_
    rcases merge_cases threshold anchors entry with ⟨before, anchor, after, rfl, _, result⟩ |
      ⟨_, result⟩
    · rw [result]
      simpa using member
    · rw [result, List.map_append]
      exact List.mem_append_left _ member

/-- The bucket that is merged first. -/
theorem heaviest_head {histogram : Histogram ℝ} {first : WeightedAngle ℝ}
    {rest : List (WeightedAngle ℝ)} (sorted : Scalar.sortOnDescending WeightedAngle.weight
      histogram.entries = first :: rest) : histogram.Heaviest first := by
  have order := Scalar.pairwise_sortOn (fun entry : WeightedAngle ℝ => -entry.weight) _
    histogram.entries_ascending
  rw [← Scalar.sortOnDescending_eq, sorted] at order
  have members := Scalar.sortOnDescending_perm WeightedAngle.weight histogram.entries
  rw [sorted] at members
  refine ⟨members.mem_iff.mp (.head _), fun other present => ?_⟩
  rcases List.mem_cons.mp (members.mem_iff.mpr present) with rfl | later
  · exact .inr ⟨rfl, le_rfl⟩
  · obtain ⟨less, tie⟩ := List.rel_of_pairwise_cons order later
    rcases (neg_le_neg_iff.mp (of_decide_eq_true less)).lt_or_eq with lighter | same
    · exact .inl lighter
    · exact .inr ⟨same, (tie (neg_inj.mpr same.symm)).le⟩

/-- The clusters of a histogram are what its buckets are merged into. -/
theorem merged_ofHistogram {histogram : Histogram ℝ} (weighed : histogram.Weighed)
    (threshold : ℝ) :
    Merged threshold histogram.entries (ofHistogram histogram threshold).anchors := by
  have buckets := Scalar.sortOnDescending_perm WeightedAngle.weight histogram.entries
  have nonneg : ∀ entry ∈ Scalar.sortOnDescending WeightedAngle.weight histogram.entries,
      0 ≤ entry.weight := fun entry member => (weighed entry (buckets.mem_iff.mp member)).le
  exact ((merged_nil threshold).foldl nonneg).perm buckets (ofHistogram_perm _ _).symm

/-- The heaviest bucket is an anchor. -/
theorem heaviest_mem_angles {histogram : Histogram ℝ} (visible : histogram.isEmpty = false)
    (threshold : ℝ) : ∃ heaviest, histogram.Heaviest heaviest ∧
      heaviest.angle ∈ (ofHistogram histogram threshold).angles := by
  have members := Scalar.sortOnDescending_perm WeightedAngle.weight histogram.entries
  have anchored := (ofHistogram_perm histogram threshold).map WeightedAngle.angle
  cases sorted : Scalar.sortOnDescending WeightedAngle.weight histogram.entries with
  | nil =>
    rw [sorted, List.nil_perm] at members
    rw [histogram.isEmpty_eq, members] at visible
    cases visible
  | cons first rest =>
    rw [sorted, List.foldl_cons] at anchored
    refine ⟨first, heaviest_head sorted, anchored.mem_iff.mpr ?_⟩
    exact angle_mem_foldl_merge [first] rest first.angle (.head _)

/-- There are clusters just where the histogram has entries. -/
theorem isEmpty_ofHistogram (histogram : Histogram ℝ) (threshold : ℝ) :
    (ofHistogram histogram threshold).isEmpty = histogram.isEmpty := by
  cases blank : histogram.isEmpty with
  | false => exact List.isEmpty_eq_false_iff.mpr (ofHistogram_anchors blank)
  | true =>
    rw [histogram.isEmpty_eq, List.isEmpty_iff] at blank
    have none := ofHistogram_subperm histogram threshold
    rw [blank, List.map_nil, List.subperm_nil] at none
    exact List.isEmpty_iff.mpr (List.map_eq_nil_iff.mp none)

/-- **Merging tells the orientations of a histogram apart and keeps its weight.** The anchors are
angles of the histogram in ascending order, no two of them closer than the threshold. The heaviest
bucket is one of them, and every other bucket is one or is closer to one than the threshold. No
anchor is lighter than its own bucket, all of them together are as heavy as the histogram, and there
are none exactly for a histogram without buckets. -/
theorem ofHistogram_merges {histogram : Histogram ℝ} (weighed : histogram.Weighed)
    (threshold : ℝ) :
    let clusters := ofHistogram histogram threshold
    clusters.angles.Pairwise (· < ·) ∧
      clusters.angles.Pairwise (fun angle other => threshold ≤ Angle.distance angle other) ∧
      (histogram.isEmpty = false →
        ∃ heaviest, histogram.Heaviest heaviest ∧ heaviest.angle ∈ clusters.angles) ∧
      (∀ entry ∈ histogram.entries, ∃ angle ∈ clusters.angles,
        angle = entry.angle ∨ Angle.distance angle entry.angle < threshold) ∧
      (∀ anchor ∈ clusters.anchors, ∃ entry ∈ histogram.entries,
        entry.angle = anchor.angle ∧ entry.weight ≤ anchor.weight) ∧
      clusters.weights.sum = histogram.totalWeight ∧
      clusters.isEmpty = histogram.isEmpty := by
  intro clusters
  have merged : Merged threshold histogram.entries clusters.anchors :=
    merged_ofHistogram weighed threshold
  exact ⟨ofHistogram_ascending histogram threshold, merged.apart,
    fun visible => heaviest_mem_angles visible threshold, merged.near, merged.own,
    merged.total.trans histogram.totalWeight_eq.symm, isEmpty_ofHistogram histogram threshold⟩

/-- Two orientations of equal weight on either side of the seam, four degrees apart, merge within
five degrees, at the lower of their angles. -/
theorem ofHistogram_merges_across_seam :
    let histogram : Histogram ℝ := .ofEntries [⟨-178, 10⟩, ⟨178, 10⟩]
    let clusters := ofHistogram histogram 5
    histogram.Weighed ∧ -178 ∈ clusters.angles ∧ 178 ∉ clusters.angles ∧
      clusters.weights.sum = 20 := by
  intro histogram clusters
  have weighed : histogram.Weighed := Histogram.ofEntries_weighed _
  have entries : histogram.entries = [⟨-178, 10⟩, ⟨178, 10⟩] := Histogram.entries_across_seam
  obtain ⟨ascending, apart, heaviest, -, -, total, -⟩ := ofHistogram_merges weighed 5
  have first : -178 ∈ clusters.angles := by
    obtain ⟨entry, ⟨member, heavier⟩, anchored⟩ :=
      heaviest (by rw [histogram.isEmpty_eq, entries]; rfl)
    have lowest := heavier ⟨-178, 10⟩ (by rw [entries]; exact .head _)
    rw [entries] at member
    rcases member with _ | ⟨_, _ | ⟨_, ⟨⟩⟩⟩
    · exact anchored
    · norm_num at lowest
  refine ⟨weighed, first, fun second => ?_, ?_⟩
  · have symmetric : Std.Symm fun angle other : ℝ => 5 ≤ Angle.distance angle other :=
      ⟨fun angle other far => by rwa [Angle.distance_comm]⟩
    have far : 5 ≤ Angle.distance (-178) (178 : ℝ) := apart.forall first second (by norm_num)
    have near : Angle.distance (-178 : ℝ) 178 ≤ |-178 - 178 + ((1 : ℤ) : ℝ) * 360| :=
      Angle.distance_le_abs _ _ 1
    norm_num at near
    linarith
  · rw [total, histogram.totalWeight_eq, entries]
    norm_num

end Clusters

end PlacedText
