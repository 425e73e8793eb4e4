import Mathlib
import PlacedText.Proofs.Angle.Unwrapping

/-! # Turned histograms

Text that is turned as a whole has its angles turned, and some of them come to lie on the other side
of the seam. By whole tenths of a degree no two buckets become one (`Histogram.turned_perm`), and
what is measured is turned by the same angle (`Histogram.stats_turned`), provided that one bucket is
heavier than all others and these are at different distances from it.
-/

namespace PlacedText

/-! ## Turned angles -/

namespace Angle

/-- Two directions that are turned alike differ as before. -/
theorem difference_turned (first second delta : ℝ) :
    difference (normalize (first + delta)) (normalize (second + delta)) =
      difference first second := by
  obtain ⟨_, _, turns, same⟩ := normalize_eq_iff.mp (rfl : normalize (second + delta) = _)
  unfold difference
  rw [normalize_normalize_sub, normalize_eq_normalize_iff]
  exact ⟨-turns, by push_cast; linarith⟩

theorem distance_turned (first second delta : ℝ) :
    distance (normalize (first + delta)) (normalize (second + delta)) = distance first second := by
  unfold distance
  rw [difference_turned]

/-- A direction is turned by as much as another one moves, up to full turns. -/
theorem normalize_add_offset (direction around delta : ℝ) :
    normalize (direction + (normalize (around + delta) - around)) =
      normalize (normalize direction + delta) := by
  have offset : direction + (normalize (around + delta) - around) =
      normalize (around + delta) - (around - direction) := by ring
  have turn : normalize direction + delta = normalize direction - -delta := by ring
  rw [offset, turn, normalize_normalize_sub, normalize_normalize_sub]
  congr 1
  ring

/-- Turned directions are told apart as before. -/
theorem normalize_add_inj {first second : ℝ} (delta : ℝ)
    (same : normalize (first + delta) = normalize (second + delta)) :
    normalize first = normalize second := by
  rw [normalize_eq_normalize_iff] at same ⊢
  rwa [add_sub_add_right_eq_sub] at same

/-- A direction in whole tenths of a degree, turned by whole tenths, is one again. -/
theorem exists_tenths (key tenths : ℤ) : ∃ key' : ℤ, -1800 < key' ∧ key' ≤ 1800 ∧
    normalize ((key : ℝ) / 10 + tenths / 10) = key' / 10 := by
  obtain ⟨above, below, turns, same⟩ :=
    normalize_eq_iff.mp (rfl : normalize ((key : ℝ) / 10 + tenths / 10) = _)
  have turned : normalize ((key : ℝ) / 10 + tenths / 10) =
      ((key + tenths - turns * 3600 : ℤ) : ℝ) / 10 := by
    push_cast
    linarith
  rw [turned] at above below ⊢
  refine ⟨_, ?_, ?_, rfl⟩
  · exact_mod_cast (by linarith : (-1800 : ℝ) < ((key + tenths - turns * 3600 : ℤ) : ℝ))
  · exact_mod_cast (by linarith : ((key + tenths - turns * 3600 : ℤ) : ℝ) ≤ 1800)

end Angle

namespace Histogram

variable {histogram : Histogram ℝ} {mode : WeightedAngle ℝ} {quantile : ℝ}

/-- The weight of an angle at the turned angle. -/
noncomputable def turnedEntry (delta : ℝ) (entry : WeightedAngle ℝ) : WeightedAngle ℝ :=
  { entry with angle := Angle.normalize (entry.angle + delta) }

/-- The histogram of text that is turned as a whole. -/
noncomputable def turned (histogram : Histogram ℝ) (delta : ℝ) : Histogram ℝ :=
  .ofEntries (histogram.entries.map (turnedEntry delta))

theorem exists_key {entry : WeightedAngle ℝ} (member : entry ∈ histogram.entries) :
    ∃ key : ℤ, entry.angle = key / 10 := by
  obtain ⟨bucket, -, rfl⟩ := List.mem_map.mp member
  exact ⟨bucket.1, by norm_num [Scalar.ofInt]⟩

/-- **By whole tenths of a degree, buckets are turned one by one.** -/
theorem turned_perm (inRange : histogram.InRange) (weighed : histogram.Weighed) (tenths : ℤ) :
    (histogram.turned (tenths / 10)).entries.Perm
      (histogram.entries.map (turnedEntry (tenths / 10))) := by
  have distinct : (histogram.entries.map WeightedAngle.angle).Nodup :=
    List.pairwise_map.mpr (histogram.entries_ascending.imp LT.lt.ne)
  refine ofEntries_perm (fun entry member => ?_) (fun entry member => ?_) ?_
  · obtain ⟨source, present, rfl⟩ := List.mem_map.mp member
    exact weighed source present
  · obtain ⟨source, present, rfl⟩ := List.mem_map.mp member
    obtain ⟨key, own⟩ := exists_key present
    obtain ⟨key', above, below, same⟩ := Angle.exists_tenths key tenths
    refine onBucket_tenths key' above below ?_
    rw [← same, ← own]
    rfl
  · -- angles that are turned into one differ by full turns, and normal ones do not
    rw [List.map_map]
    refine distinct.of_map.map_on fun first here second there same => ?_
    obtain ⟨above, below⟩ := inRange.normal first here
    obtain ⟨above', below'⟩ := inRange.normal second there
    have angles := Angle.normalize_add_inj (tenths / 10) same
    rw [Angle.normalize_of_normal above below, Angle.normalize_of_normal above' below'] at angles
    exact List.inj_on_of_nodup_map distinct here there angles

/-! ## The heaviest bucket -/

/-- Whether a bucket is heavier than every other one. -/
def Peak (histogram : Histogram ℝ) (mode : WeightedAngle ℝ) : Prop :=
  mode ∈ histogram.entries ∧ ∀ other ∈ histogram.entries, other ≠ mode → other.weight < mode.weight

theorem Peak.mode? (peak : histogram.Peak mode) : histogram.mode? = some mode := by
  refine mode?_eq_some_iff.mpr ⟨peak.1, fun other member => ?_⟩
  by_cases same : other = mode
  · exact .inr ⟨by rw [same], by rw [same]⟩
  · exact .inl (peak.2 other member same)

/-- The heaviest bucket stays the heaviest. -/
theorem Peak.turned (peak : histogram.Peak mode) (inRange : histogram.InRange)
    (weighed : histogram.Weighed) (tenths : ℤ) :
    (histogram.turned (tenths / 10)).Peak (turnedEntry (tenths / 10) mode) := by
  have perm := turned_perm inRange weighed tenths
  refine ⟨perm.mem_iff.mpr (List.mem_map_of_mem peak.1), fun other member apart => ?_⟩
  obtain ⟨source, present, rfl⟩ := List.mem_map.mp (perm.mem_iff.mp member)
  exact peak.2 source present (ne_of_apply_ne _ apart)

/-! ## What is measured -/

/-- Around the turned mode, the samples are those around the mode, moved along with it. -/
theorem samplesAround_turned (inRange : histogram.InRange) (weighed : histogram.Weighed)
    (tenths : ℤ) (mode : ℝ) :
    ((histogram.turned (tenths / 10)).samplesAround (Angle.normalize (mode + tenths / 10))).Perm
      ((histogram.samplesAround mode).map
        (TrimmedMean.moved (Angle.normalize (mode + tenths / 10) - mode))) := by
  rw [samplesAround_eq, samplesAround_eq, List.map_map]
  refine ((turned_perm inRange weighed tenths).map _).trans (.of_eq ?_)
  rw [List.map_map]
  refine List.map_congr_left fun entry _ => ?_
  have angle : Angle.unwrapped (Angle.normalize (mode + tenths / 10))
      (Angle.normalize (entry.angle + tenths / 10)) =
        Angle.unwrapped mode entry.angle + (Angle.normalize (mode + tenths / 10) - mode) := by
    unfold Angle.unwrapped
    rw [Angle.difference_turned]
    ring
  simp only [Function.comp_apply, turnedEntry, TrimmedMean.moved, angle, Angle.distance_turned]

/-- **What is measured turns with the text**, wherever the seam comes to lie. Text that is turned by
tenths of a degree has the same buckets, turned and in another order, and the same peak turned; no
two of them are equally far from the peak, so the order does not show in the trimmed mean, which
moves with its samples. -/
theorem stats_turned (inRange : histogram.InRange) (weighed : histogram.Weighed)
    (peak : histogram.Peak mode)
    (apart : (histogram.entries.map fun entry => Angle.distance entry.angle mode.angle).Nodup)
    (below : quantile < 1 / 2) (tenths : ℤ) :
    let stats := histogram.stats quantile
    (histogram.turned (tenths / 10)).stats quantile =
      ⟨Angle.normalize (stats.mean + tenths / 10), stats.deviation⟩ := by
  intro stats
  have size : (histogram.turned (tenths / 10)).size = histogram.size := by
    have length := (turned_perm inRange weighed tenths).length_eq
    simpa [entries, Histogram.size] using length
  have trims : (if histogram.size < 2 then 0 else quantile) < 1 / 2 := by
    split
    · norm_num
    · exact below
  obtain ⟨nonneg, positive⟩ :=
    samplesAround_weighed weighed (isEmpty_eq_false_of_mem peak.1) mode.angle
  have perm := samplesAround_turned inRange weighed tenths mode.angle
  have weights := perm.map Sample.weight
  have distances := perm.map Sample.distance
  rw [TrimmedMean.map_weight_moved] at weights
  rw [TrimmedMean.map_distance_moved, samplesAround_eq histogram, List.map_map] at distances
  have trimmed := TrimmedMean.ofSamples_perm perm (by rwa [weights.sum_eq])
    (distances.nodup_iff.mpr apart) (if histogram.size < 2 then 0 else quantile)
  rw [TrimmedMean.ofSamples_moved nonneg positive trims] at trimmed
  have found := (peak.turned inRange weighed tenths).mode?
  have mean : stats = _ := stats_eq peak.mode? quantile
  rw [stats_eq found, size]
  dsimp only [turnedEntry]
  rw [trimmed, mean]
  exact congrArg (AngleStats.mk · _) (Angle.normalize_add_offset _ _ _)

/-- Text on both sides of the seam, most of it short of it, is turned across. -/
theorem stats_turned_across_seam :
    let histogram : Histogram ℝ := .ofEntries [⟨178, 30⟩, ⟨-179, 8⟩, ⟨177, 5⟩]
    let stats := histogram.stats (1 / 20)
    histogram.InRange ∧ histogram.Weighed ∧ histogram.Peak ⟨178, 30⟩ ∧
      (histogram.entries.map fun entry => Angle.distance entry.angle 178).Nodup ∧
      (1 / 20 : ℝ) < 1 / 2 ∧
      (histogram.turned ((25 : ℤ) / 10)).stats (1 / 20) =
        ⟨Angle.normalize (stats.mean + (25 : ℤ) / 10), stats.deviation⟩ := by
  intro histogram stats
  have own : ∀ degrees ∈ [(178 : ℝ), -179, 177], OnBucket degrees := by
    have whole (degrees : ℤ) (above : -180 < degrees) (below : degrees ≤ 180) :
        OnBucket (degrees : ℝ) :=
      onBucket_tenths (degrees * 10) (by omega) (by omega) (by push_cast; ring)
    have first := whole 178 (by decide) (by decide)
    have second := whole (-179) (by decide) (by decide)
    have third := whole 177 (by decide) (by decide)
    norm_num at first second third
    simp [first, second, third]
  have perm : histogram.entries.Perm [⟨178, 30⟩, ⟨-179, 8⟩, ⟨177, 5⟩] :=
    ofEntries_perm (by norm_num) (by simpa using own) (by norm_num)
  have inRange : histogram.InRange := ofEntries_inRange _
  have weighed : histogram.Weighed := ofEntries_weighed _
  have peak : histogram.Peak ⟨178, 30⟩ := by
    refine ⟨perm.mem_iff.mpr (.head _), fun other member => ?_⟩
    have present := perm.mem_iff.mp member
    simp only [List.mem_cons, List.not_mem_nil, or_false] at present
    rcases present with rfl | rfl | rfl
    · exact fun apart => absurd rfl apart
    · norm_num
    · norm_num
  have apart : (histogram.entries.map fun entry => Angle.distance entry.angle 178).Nodup := by
    have across : Angle.difference (-179 : ℝ) 178 = 3 :=
      Angle.normalize_eq_iff.mpr ⟨by norm_num, by norm_num, -1, by norm_num⟩
    have short : Angle.difference (177 : ℝ) 178 = -1 :=
      Angle.normalize_eq_iff.mpr ⟨by norm_num, by norm_num, 0, by norm_num⟩
    rw [(perm.map _).nodup_iff]
    norm_num [Angle.distance, across, short, Angle.difference_self, Scalar.abs]
  exact ⟨inRange, weighed, peak, apart, by norm_num,
    stats_turned inRange weighed peak apart (by norm_num) 25⟩

end Histogram

end PlacedText
