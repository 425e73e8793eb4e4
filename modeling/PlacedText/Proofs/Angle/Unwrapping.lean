import Mathlib
import PlacedText.Angle.Skew
import PlacedText.Proofs.Angle.Means
import PlacedText.Proofs.Angle.Merging

/-! # Angles around the heaviest one

The mode of a histogram is its heaviest bucket, the one at the lowest angle if there are several
(`Histogram.mode?_eq_some_iff`). The other angles are unwrapped around it, each to where the short
way round leads (`Angle.unwrapped`), and the mean of a histogram is that of the unwrapped angles
(`Histogram.stats_eq`), no matter where the circle is cut open.
-/

namespace PlacedText

/-- An angle as it is met on the short way round from another one. -/
noncomputable def Angle.unwrapped (around angle : ℝ) : ℝ := around + difference angle around

namespace Histogram

variable {histogram : Histogram ℝ} {mode : WeightedAngle ℝ}

/-! ## The heaviest bucket -/

theorem heaviest?_cons_cons (first second : WeightedAngle ℝ) (rest : List (WeightedAngle ℝ)) :
    heaviest? (first :: second :: rest) =
      if second.weight ≤ first.weight then heaviest? (first :: rest)
      else heaviest? (second :: rest) := by
  by_cases heavy : second.weight ≤ first.weight
  · simp [heaviest?, heavy]
  · simp [heaviest?, heavy]

/-- Of entries in ascending order the heaviest one is found, the lowest one if there are several. By
induction behind the first entry, which is compared with the second one and stands for both if it is
as heavy. -/
theorem exists_heaviest {first : WeightedAngle ℝ} {rest : List (WeightedAngle ℝ)}
    (ascending : (first :: rest).Pairwise fun entry later => entry.angle < later.angle) :
    ∃ found ∈ first :: rest, heaviest? (first :: rest) = some found ∧ ∀ other ∈ first :: rest,
      other.weight < found.weight ∨ other.weight = found.weight ∧ found.angle ≤ other.angle := by
  induction rest generalizing first with
  | nil => exact ⟨first, .head _, rfl, by simp⟩
  | cons second rest ih =>
    obtain ⟨lower, ascending'⟩ := List.pairwise_cons.mp ascending
    rw [heaviest?_cons_cons]
    by_cases heavy : second.weight ≤ first.weight
    · rw [if_pos heavy]
      obtain ⟨found, member, same, heaviest⟩ :=
        ih (ascending.sublist ((List.sublist_cons_self second rest).cons_cons first))
      refine ⟨found, by grind, same, fun other present => ?_⟩
      rcases List.mem_cons.mp present with rfl | later
      · exact heaviest other (.head _)
      · rcases List.mem_cons.mp later with rfl | rest
        · -- no heavier than the first entry and above it, so behind whatever comes before that one
          have above := lower other (.head _)
          rcases heaviest first (.head _) with lighter | ⟨level, le⟩
          · exact .inl (heavy.trans_lt lighter)
          · rcases heavy.lt_or_eq with less | even
            · exact .inl (less.trans_eq level)
            · exact .inr ⟨even.trans level, le.trans above.le⟩
        · exact heaviest other (.tail _ rest)
    · rw [if_neg heavy]
      obtain ⟨found, member, same, heaviest⟩ := ih ascending'
      refine ⟨found, .tail _ member, same, fun other present => ?_⟩
      rcases List.mem_cons.mp present with rfl | later
      · refine .inl ((not_le.mp heavy).trans_le ?_)
        rcases heaviest second (.head _) with lighter | ⟨level, -⟩
        · exact lighter.le
        · exact level.le
      · exact heaviest other later

/-- The heaviest bucket with the lowest angle is unique, since a key has one bucket. -/
theorem Heaviest.unique {other : WeightedAngle ℝ} (first : histogram.Heaviest mode)
    (second : histogram.Heaviest other) : mode = other := by
  have ahead := first.2 other second.1
  have behind := second.2 mode first.1
  obtain ⟨angle, weight⟩ := mode
  obtain ⟨angle', weight'⟩ := other
  dsimp only at ahead behind
  have weights : weight = weight' := by grind
  have angles : angle = angle' := by grind
  rw [weights, angles]

/-- A histogram that is not empty has a mode, and it is the heaviest bucket with the lowest angle.
-/
theorem exists_mode (visible : histogram.isEmpty = false) :
    ∃ mode, histogram.mode? = some mode ∧ histogram.Heaviest mode := by
  rw [histogram.isEmpty_eq, List.isEmpty_eq_false_iff] at visible
  have ascending := histogram.entries_ascending
  unfold mode? Heaviest
  cases entries : histogram.entries with
  | nil => exact absurd entries visible
  | cons first rest =>
    rw [entries] at ascending
    obtain ⟨found, member, same, heaviest⟩ := exists_heaviest ascending
    exact ⟨found, same, member, heaviest⟩

theorem isEmpty_eq_false_of_mem {entry : WeightedAngle ℝ} (member : entry ∈ histogram.entries) :
    histogram.isEmpty = false := by
  rw [histogram.isEmpty_eq, List.isEmpty_eq_false_iff]
  exact List.ne_nil_of_mem member

/-- **The mode is the heaviest bucket**, at the lowest angle on a tie. -/
theorem mode?_eq_some_iff : histogram.mode? = some mode ↔ histogram.Heaviest mode := by
  constructor
  · intro found
    by_cases blank : histogram.isEmpty = true
    · rw [histogram.isEmpty_eq, List.isEmpty_iff] at blank
      unfold mode? at found
      rw [blank] at found
      cases found
    · obtain ⟨own, same, heaviest⟩ := exists_mode (by simpa using blank)
      rw [same] at found
      cases found
      exact heaviest
  · intro heaviest
    obtain ⟨own, same, heaviest'⟩ := exists_mode (isEmpty_eq_false_of_mem heaviest.1)
    rw [same, heaviest.unique heaviest']

/-! ## Unwrapped angles -/

/-- The samples around an angle are the buckets, each unwrapped to within half a turn of it and with
its distance from it. -/
theorem samplesAround_eq (histogram : Histogram ℝ) (around : ℝ) :
    histogram.samplesAround around = histogram.entries.map fun entry =>
      ⟨Angle.unwrapped around entry.angle, entry.weight, Angle.distance entry.angle around⟩ := by
  unfold samplesAround
  refine List.map_congr_left fun entry _ => ?_
  have back : around + Angle.difference entry.angle around - around =
      Angle.difference entry.angle around := add_sub_cancel_left _ _
  dsimp only
  rw [back]
  rfl

theorem samplesAround_weights (histogram : Histogram ℝ) (around : ℝ) :
    (histogram.samplesAround around).map Sample.weight =
      histogram.entries.map WeightedAngle.weight := by
  rw [samplesAround_eq, List.map_map]
  rfl

theorem length_samplesAround (histogram : Histogram ℝ) (around : ℝ) :
    (histogram.samplesAround around).length = histogram.size := by
  simp [samplesAround, entries, size]

/-- The angles of a histogram weigh something. -/
theorem samplesAround_weighed (weighed : histogram.Weighed) (visible : histogram.isEmpty = false)
    (around : ℝ) : (∀ item ∈ histogram.samplesAround around, 0 ≤ item.weight) ∧
      0 < ((histogram.samplesAround around).map Sample.weight).sum := by
  rw [histogram.isEmpty_eq, List.isEmpty_eq_false_iff] at visible
  constructor
  · intro item member
    rw [samplesAround_eq] at member
    obtain ⟨entry, present, rfl⟩ := List.mem_map.mp member
    exact (weighed entry present).le
  · rw [samplesAround_weights]
    refine List.sum_pos _ (fun weight member => ?_) (by simpa using visible)
    obtain ⟨entry, present, rfl⟩ := List.mem_map.mp member
    exact weighed entry present

/-- The mean of a histogram is that of the unwrapped angles. -/
theorem stats_eq (found : histogram.mode? = some mode) (quantile : ℝ) :
    let trimmed := TrimmedMean.ofSamples (histogram.samplesAround mode.angle)
      (if histogram.size < 2 then 0 else quantile)
    histogram.stats quantile = ⟨Angle.normalize trimmed.mean, trimmed.deviation⟩ := by
  have zero : (0.0 : ℝ) = 0 := by norm_num
  intro trimmed
  unfold stats
  rw [found]
  dsimp only
  rw [length_samplesAround, zero]

end Histogram

end PlacedText
