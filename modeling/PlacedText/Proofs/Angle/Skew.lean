import Mathlib
import PlacedText.Proofs.Angle.Unwrapping

/-! # Rotation and skew

The measured angle of a page is a mean of angles that occur, as long as less than half of the weight
is cut from either end; if all of it is cut, the page passes for upright
(`Histogram.deskew_averages`). What is measured is split into the nearest right angle and the skew
that is left of it (`Histogram.deskew_decomposes`).
-/

namespace PlacedText.Histogram

variable {histogram : Histogram ℝ} {quantile : ℝ}

/-! ## A mean of angles -/

/-- Whether an angle has the direction of one that lies between two angles of a histogram, unwrapped
around its mode. -/
def Encloses (histogram : Histogram ℝ) (angle : ℝ) : Prop :=
  ∃ mode, histogram.mode? = some mode ∧
    ∃ first ∈ histogram.entries, ∃ last ∈ histogram.entries, ∃ inner,
      Angle.unwrapped mode.angle first.angle ≤ inner ∧
        inner ≤ Angle.unwrapped mode.angle last.angle ∧
        Angle.normalize inner = Angle.normalize angle

/-- The full angle of the decision is the trimmed mean, within `maxSkew` or not. -/
theorem deskew_fullAngle (visible : histogram.isEmpty = false) (quantile maxSkew : ℝ) :
    (histogram.deskew quantile maxSkew).fullAngle = (histogram.stats quantile).mean := by
  unfold deskew
  rw [visible, if_neg Bool.false_ne_true]
  dsimp only
  split
  · rfl
  · rfl

/-- The decision is reliable just where the angles are tight, within `maxSkew` or not. -/
theorem deskew_reliable (visible : histogram.isEmpty = false) (quantile maxSkew : ℝ) :
    (histogram.deskew quantile maxSkew).reliable = (histogram.stats quantile).isTight := by
  unfold deskew
  rw [visible, if_neg Bool.false_ne_true]
  cases tight : (histogram.stats quantile).isTight with
  | false => simp [tight, DeskewDecision.unrotated]
  | true => simp [tight]

/-- Without deviation every mean is trusted. -/
theorem isTight_of_no_deviation (mean : ℝ) : (⟨mean, 0⟩ : AngleStats ℝ).isTight = true := by
  unfold AngleStats.isTight
  refine decide_eq_true (Real.sqrt_pos.mpr ?_)
  have nonneg : 0 ≤ Scalar.abs mean := abs_nonneg mean
  norm_num
  positivity

/-- A mean of unwrapped angles lies between two of them: between the least and the greatest, as the
shares of what is left sum to one and none is negative. -/
theorem encloses_mean (weighed : histogram.Weighed) (visible : histogram.isEmpty = false)
    (left : quantile < 1 / 2 ∨ histogram.size < 2) :
    histogram.Encloses (histogram.stats quantile).mean := by
  classical
  obtain ⟨mode, found, heaviest⟩ := exists_mode visible
  obtain ⟨nonneg, positive⟩ := samplesAround_weighed weighed visible mode.angle
  have occurs : histogram.entries.toFinset.Nonempty := ⟨mode, List.mem_toFinset.mpr heaviest.1⟩
  obtain ⟨first, member, least⟩ := Finset.exists_min_image _
    (fun entry => Angle.unwrapped mode.angle entry.angle) occurs
  obtain ⟨last, member', greatest⟩ := Finset.exists_max_image _
    (fun entry => Angle.unwrapped mode.angle entry.angle) occurs
  rw [List.mem_toFinset] at member member'
  have between : ∀ item ∈ histogram.samplesAround mode.angle,
      Angle.unwrapped mode.angle first.angle ≤ item.angle ∧
        item.angle ≤ Angle.unwrapped mode.angle last.angle := by
    intro item present
    rw [samplesAround_eq] at present
    obtain ⟨entry, own, rfl⟩ := List.mem_map.mp present
    exact ⟨least entry (List.mem_toFinset.mpr own), greatest entry (List.mem_toFinset.mpr own)⟩
  have below : (if histogram.size < 2 then 0 else quantile) < 1 / 2 := by
    split
    · norm_num
    · exact left.resolve_right ‹_›
  obtain ⟨low, high⟩ := TrimmedMean.mean_between nonneg positive below between
  rw [stats_eq found]
  exact ⟨mode, found, first, member, last, member', _, low, high,
    (Angle.normalize_normalize _).symm⟩

/-- Where everything is cut away, the mean is zero without any deviation. -/
theorem stats_of_half_le (weighed : histogram.Weighed) (several : 2 ≤ histogram.size)
    (half : 1 / 2 ≤ quantile) : histogram.stats quantile = ⟨0, 0⟩ := by
  have visible : histogram.isEmpty = false := by
    rw [isEmpty, List.isEmpty_eq_false_iff]
    exact List.ne_nil_of_length_pos (by unfold size at several; omega)
  obtain ⟨mode, found, -⟩ := exists_mode visible
  obtain ⟨-, positive⟩ := samplesAround_weighed weighed visible mode.angle
  have length : 2 ≤ (histogram.samplesAround mode.angle).length := by
    rwa [length_samplesAround]
  have zero : Angle.normalize (0 : ℝ) = 0 :=
    Angle.normalize_of_normal (by norm_num) (by norm_num)
  rw [stats_eq found, if_neg (not_lt.mpr several),
    TrimmedMean.ofSamples_of_half_le length positive half]
  exact congrArg (AngleStats.mk · 0) zero

/-- Text of one direction is measured at this direction. -/
theorem stats_of_single {entry : WeightedAngle ℝ} (single : histogram.entries = [entry])
    (normal : -180 < entry.angle ∧ entry.angle ≤ 180) (quantile : ℝ) :
    histogram.stats quantile = ⟨entry.angle, 0⟩ := by
  have visible : histogram.isEmpty = false :=
    isEmpty_eq_false_of_mem (by rw [single]; exact .head _)
  obtain ⟨mode, found, heaviest⟩ := exists_mode visible
  have own := heaviest.1
  rw [single, List.mem_singleton] at own
  have here := Angle.normalize_of_normal normal.1 normal.2
  rw [stats_eq found, samplesAround_eq, single, own]
  unfold TrimmedMean.ofSamples Angle.unwrapped
  norm_num [Angle.difference_self, here]

/-- **The measured angle is a mean of angles that occur if and only if less than half of the weight
is cut from either end**, or there is only one angle, or zero happens to lie among the angles. A
page whose text is all cut away is found to be upright, and that reliably. -/
theorem deskew_averages (weighed : histogram.Weighed) (visible : histogram.isEmpty = false)
    (quantile maxSkew : ℝ) :
    let decision := histogram.deskew quantile maxSkew
    (histogram.Encloses decision.fullAngle ↔
      quantile < 1 / 2 ∨ histogram.size < 2 ∨ histogram.Encloses 0) ∧
    (1 / 2 ≤ quantile → 2 ≤ histogram.size →
      decision.reliable = true ∧ decision.fullAngle = 0) := by
  intro decision
  have full : decision.fullAngle = (histogram.stats quantile).mean :=
    deskew_fullAngle visible quantile maxSkew
  have nothing (half : 1 / 2 ≤ quantile) (several : 2 ≤ histogram.size) :
      decision.reliable = true ∧ decision.fullAngle = 0 := by
    have stats := stats_of_half_le weighed several half
    refine ⟨?_, by rw [full, stats]⟩
    rw [deskew_reliable visible, stats]
    exact isTight_of_no_deviation 0
  refine ⟨⟨fun encloses => ?_, fun kept => ?_⟩, nothing⟩
  · by_contra cut
    simp only [not_or, not_lt] at cut
    rw [(nothing cut.1 cut.2.1).2] at encloses
    exact cut.2.2 encloses
  · by_cases left : quantile < 1 / 2 ∨ histogram.size < 2
    · rw [full]
      exact encloses_mean weighed visible left
    · simp only [not_or, not_lt] at left
      rw [(nothing left.1 left.2).2]
      grind

/-- Two orientations on either side of half a turn, all of whose weight is cut away: the page passes
for upright, although no text on it is. -/
theorem deskew_averages_across_seam :
    let histogram : Histogram ℝ := .ofEntries [⟨-178, 10⟩, ⟨178, 10⟩]
    let decision := histogram.deskew (1 / 2) 6
    histogram.Weighed ∧ histogram.isEmpty = false ∧ decision.reliable = true ∧
      decision.fullAngle = 0 ∧ ¬histogram.Encloses decision.fullAngle := by
  intro histogram decision
  have entries : histogram.entries = [⟨-178, 10⟩, ⟨178, 10⟩] := entries_across_seam
  have weighed : histogram.Weighed := ofEntries_weighed _
  have visible : histogram.isEmpty = false :=
    isEmpty_eq_false_of_mem (by rw [entries]; exact .head _)
  have several : histogram.size = 2 := by
    have length := congrArg List.length entries
    rwa [Histogram.entries, List.length_map] at length
  obtain ⟨encloses, nothing⟩ := deskew_averages weighed visible (1 / 2) 6
  obtain ⟨reliable, zero⟩ := nothing le_rfl several.ge
  refine ⟨weighed, visible, reliable, zero, ?_⟩
  rintro ⟨mode, found, first, member, last, member', inner, low, high, same⟩
  have lowest : mode.angle = -178 := by
    obtain ⟨own, heaviest⟩ := mode?_eq_some_iff.mp found
    rw [entries] at own heaviest
    rcases List.mem_pair.mp own with rfl | rfl
    · rfl
    · norm_num at heaviest
  have across : Angle.difference (178 : ℝ) (-178) = -4 :=
    Angle.normalize_eq_iff.mpr ⟨by norm_num, by norm_num, 1, by norm_num⟩
  have near : ∀ entry ∈ histogram.entries, -182 ≤ Angle.unwrapped mode.angle entry.angle ∧
      Angle.unwrapped mode.angle entry.angle ≤ -178 := by
    rw [entries, lowest]
    unfold Angle.unwrapped
    simp only [List.forall_mem_cons, across, Angle.difference_self]
    norm_num
  have least := (near first member).1.trans low
  have greatest := high.trans (near last member').2
  rw [zero, Angle.normalize_eq_normalize_iff] at same
  obtain ⟨turns, same⟩ := same
  have above : (0 : ℝ) < turns := by linarith
  have below : (turns : ℝ) < 1 := by linarith
  have above' : 0 < turns := by exact_mod_cast above
  have below' : turns < 1 := by exact_mod_cast below
  omega

/-! ## Right angle and skew -/

/-- The mean of a histogram is a normal angle. -/
theorem stats_normal (histogram : Histogram ℝ) (quantile : ℝ) :
    -180 < (histogram.stats quantile).mean ∧ (histogram.stats quantile).mean ≤ 180 := by
  unfold stats
  split
  · norm_num
  · obtain ⟨above, below, -⟩ := Angle.normalize_eq_iff.mp (rfl : Angle.normalize _ = _)
    exact ⟨above, below⟩

/-- A page is left as it is, or its angle is split into quarter turns and a rest. The quotient by a
right angle is rounded to at most two, so that clamping it does nothing. -/
theorem deskew_cases (histogram : Histogram ℝ) (quantile maxSkew : ℝ) :
    ∃ full, (-180 < full ∧ full ≤ 180) ∧
      (histogram.deskew quantile maxSkew = .unrotated full ∨
        ∃ quarters : ℤ, |full - quarters * 90| ≤ 45 ∧ histogram.deskew quantile maxSkew =
          ⟨full, (quarters % 4).toNat * 90,
            if |full - quarters * 90| ≤ maxSkew then full - quarters * 90 else 0, true⟩) := by
  have zero : (0.0 : ℝ) = 0 := by norm_num
  have ninety : (90.0 : ℝ) = 90 := by norm_num
  unfold deskew
  split
  · exact ⟨0, by norm_num, .inl (by rw [zero])⟩
  · refine ⟨_, stats_normal histogram quantile, ?_⟩
    obtain ⟨above, below⟩ := stats_normal histogram quantile
    dsimp only
    split
    · exact .inl rfl
    · generalize (histogram.stats quantile).mean = full at above below ⊢
      obtain ⟨quarters, rounded, near⟩ := ExactScalar.exists_round (full / 90.0)
      obtain ⟨low, high⟩ := abs_le.mp near
      have close : |full - quarters * 90| ≤ 45 := by
        norm_num at low high
        exact abs_le.mpr ⟨by linarith, by linarith⟩
      have few : Scalar.clampToInt (-2) 2 (quarters : ℝ) = quarters := by
        obtain ⟨low, high⟩ := abs_le.mp close
        have least : (-3 : ℝ) < quarters := by linarith
        have most : (quarters : ℝ) < 3 := by linarith
        have least' : -3 < quarters := by exact_mod_cast least
        have most' : quarters < 3 := by exact_mod_cast most
        change max (-2) (min 2 (ExactScalar.truncate (quarters : ℝ))) = quarters
        rw [ExactScalar.truncate_intCast]
        omega
      refine .inr ⟨quarters, close, ?_⟩
      rw [rounded, few, ninety, zero]
      congr 1
      change (if |full - quarters * 90| > maxSkew then 0 else full - quarters * 90) = _
      by_cases fits : |full - quarters * 90| ≤ maxSkew
      · rw [if_neg (not_lt.mpr fits), if_pos fits]
      · rw [if_pos (not_le.mp fits), if_neg fits]

/-- Of all right angles the one within an eighth of a turn is the nearest. -/
theorem abs_le_distance_quarters {full : ℝ} {quarters : ℤ} (close : |full - quarters * 90| ≤ 45)
    (other : ℤ) : |full - quarters * 90| ≤ Angle.distance full (other * 90) := by
  obtain ⟨turns, same⟩ := Angle.distance_eq_abs full (other * 90)
  have apart : full - other * 90 + turns * 360 =
      full - quarters * 90 + ((quarters - other + 4 * turns : ℤ) : ℝ) * 90 := by
    push_cast
    ring
  rw [same, apart]
  by_cases here : quarters - other + 4 * turns = 0
  · rw [here, Int.cast_zero, zero_mul, add_zero]
  · have far : (1 : ℝ) ≤ |((quarters - other + 4 * turns : ℤ) : ℝ)| := by
      exact_mod_cast Int.one_le_abs here
    have reach := abs_sub (full - quarters * 90 +
      ((quarters - other + 4 * turns : ℤ) : ℝ) * 90) (full - quarters * 90)
    rw [add_sub_cancel_left, abs_mul, abs_of_pos (by norm_num : (0 : ℝ) < 90)] at reach
    linarith

/-- The rotation by some quarter turns is that by them up to full turns. -/
theorem rotation_eq (quarters : ℤ) : (((quarters % 4).toNat * 90 : ℕ) : ℝ) =
    quarters * 90 - (quarters / 4 : ℤ) * 360 := by
  have whole : (((quarters % 4).toNat * 90 : ℕ) : ℤ) = quarters * 90 - quarters / 4 * 360 := by
    omega
  exact_mod_cast whole

theorem rotation_mem (quarters : ℤ) : (quarters % 4).toNat * 90 ∈ [0, 90, 180, 270] := by
  have few : (quarters % 4).toNat < 4 := by omega
  interval_cases (quarters % 4).toNat <;> simp

/-- The way from the rotation by some quarter turns is what is left of the angle. -/
theorem difference_rotation {full : ℝ} {quarters : ℤ} (close : |full - quarters * 90| ≤ 45) :
    Angle.difference full (((quarters % 4).toNat * 90 : ℕ) : ℝ) = full - quarters * 90 := by
  obtain ⟨low, high⟩ := abs_le.mp close
  refine Angle.normalize_eq_iff.mpr ⟨by linarith, by linarith, quarters / 4, ?_⟩
  rw [rotation_eq]
  ring

/-- The rotation by some quarter turns and what is left of an angle are the angle. -/
theorem normalize_rotation_add {full : ℝ} (normal : -180 < full ∧ full ≤ 180) (quarters : ℤ) :
    Angle.normalize ((((quarters % 4).toNat * 90 : ℕ) : ℝ) + (full - quarters * 90)) = full := by
  refine Angle.normalize_eq_iff.mpr ⟨normal.1, normal.2, -(quarters / 4), ?_⟩
  rw [rotation_eq]
  push_cast
  ring

/-- **A measured angle is split into the nearest right angle and what is left of it.** The full
angle is the trimmed mean, in normal form. If it is unreliable, nothing is corrected. If it is
reliable, the rotation is one of the four right angles and no other is closer to the full angle; the
rest is the skew if it is within `maxSkew`, in which case both together are the full angle again,
and no skew is corrected otherwise. The skew is never more than half a right angle or `maxSkew`. -/
theorem deskew_decomposes (histogram : Histogram ℝ) (quantile : ℝ) {maxSkew : ℝ}
    (nonneg : 0 ≤ maxSkew) :
    let decision := histogram.deskew quantile maxSkew
    let rotation : ℝ := decision.pageRotation
    let residual := Angle.difference decision.fullAngle rotation
    (histogram.isEmpty = false → decision.fullAngle = (histogram.stats quantile).mean ∧
      decision.reliable = (histogram.stats quantile).isTight) ∧
      (-180 < decision.fullAngle ∧ decision.fullAngle ≤ 180) ∧
      (decision.reliable = false → decision.pageRotation = 0 ∧ decision.skewAngle = 0) ∧
      (decision.reliable = true → decision.pageRotation ∈ [0, 90, 180, 270] ∧
        Angle.distance decision.fullAngle rotation ≤ 45 ∧
        (∀ quarters : ℤ, Angle.distance decision.fullAngle rotation ≤
          Angle.distance decision.fullAngle (quarters * 90)) ∧
        (|residual| ≤ maxSkew → decision.skewAngle = residual ∧
          Angle.normalize (rotation + decision.skewAngle) = decision.fullAngle ∧
          decision.measuredAngle = decision.fullAngle) ∧
        (maxSkew < |residual| → decision.skewAngle = 0)) ∧
      |decision.skewAngle| ≤ min 45 maxSkew := by
  have measured (visible : histogram.isEmpty = false) :=
    And.intro (deskew_fullAngle visible quantile maxSkew)
      (deskew_reliable visible quantile maxSkew)
  obtain ⟨full, normal, cases⟩ := deskew_cases histogram quantile maxSkew
  generalize histogram.deskew quantile maxSkew = decision at measured cases ⊢
  have zero : (0.0 : ℝ) = 0 := by norm_num
  have still : |(0 : ℝ)| ≤ min 45 maxSkew := by
    rw [abs_zero]
    exact le_min (by norm_num) nonneg
  rcases cases with rfl | ⟨quarters, close, rfl⟩
  · refine ⟨measured, normal, fun _ => ⟨rfl, zero⟩, nofun, ?_⟩
    change |(0.0 : ℝ)| ≤ _
    rwa [zero]
  · have residual := difference_rotation close
    have distance : Angle.distance full (((quarters % 4).toNat * 90 : ℕ) : ℝ) =
        |full - quarters * 90| := congrArg abs residual
    have whole := normalize_rotation_add normal quarters
    dsimp only
    rw [residual, distance]
    refine ⟨measured, normal, nofun, fun _ => ⟨rotation_mem quarters, close,
      abs_le_distance_quarters close, ?_, ?_⟩, ?_⟩
    · intro fits
      rw [if_pos fits]
      exact ⟨rfl, whole, whole⟩
    · intro large
      rw [if_neg (not_le.mpr large)]
    · split
      · next fits => exact le_min close fits
      · exact still

/-- Text that stands less than an eighth of a turn from going down the page. -/
theorem deskew_decomposes_of_slanted :
    let histogram : Histogram ℝ := .ofEntries [⟨-134.9, 10⟩]
    let decision := histogram.deskew (1 / 20) 45
    (0 : ℝ) ≤ 45 ∧ decision.reliable = true ∧ decision.pageRotation = 270 ∧
      decision.skewAngle = -44.9 ∧ decision.measuredAngle = -134.9 := by
  intro histogram decision
  have own : OnBucket (-134.9) :=
    onBucket_tenths (-1349) (by decide) (by decide) (by norm_num)
  have entries : histogram.entries = [⟨-134.9, 10⟩] :=
    List.perm_singleton.mp (ofEntries_perm (by norm_num) (by simpa using own) (by simp))
  have visible : histogram.isEmpty = false :=
    isEmpty_eq_false_of_mem (by rw [entries]; exact .head _)
  have stats : histogram.stats (1 / 20) = ⟨-134.9, 0⟩ :=
    stats_of_single entries (by norm_num) (1 / 20)
  have full : decision.fullAngle = -134.9 := by
    rw [deskew_fullAngle visible, stats]
  have reliable : decision.reliable = true := by
    rw [deskew_reliable visible, stats]
    exact isTight_of_no_deviation _
  obtain ⟨-, -, -, trusted, -⟩ := deskew_decomposes histogram (1 / 20) (by norm_num : (0 : ℝ) ≤ 45)
  obtain ⟨right, close, -, fits, -⟩ := trusted reliable
  have left (rotation residual : ℝ) (turns : ℤ) (above : -180 < residual) (below : residual ≤ 180)
      (same : -134.9 - rotation = residual + turns * 360) :
      Angle.difference (-134.9) rotation = residual :=
    Angle.normalize_eq_iff.mpr ⟨above, below, turns, same⟩
  have rest : Angle.difference (-134.9 : ℝ) 270 = -44.9 :=
    left 270 (-44.9) (-1) (by norm_num) (by norm_num) (by norm_num)
  have rotation : decision.pageRotation = 270 := by
    change |Angle.difference _ _| ≤ _ at close
    simp only [List.mem_cons, List.not_mem_nil, or_false] at right
    rw [full] at close
    rcases right with upright | once | twice | thrice
    · rw [upright, left _ (-134.9) 0 (by norm_num) (by norm_num) (by norm_num)] at close
      norm_num [abs_le] at close
    · rw [once, left _ 135.1 (-1) (by norm_num) (by norm_num) (by norm_num)] at close
      norm_num [abs_le] at close
    · rw [twice, left _ 45.1 (-1) (by norm_num) (by norm_num) (by norm_num)] at close
      norm_num [abs_le] at close
    · exact thrice
  rw [rotation, full, Nat.cast_ofNat, rest] at fits
  obtain ⟨skew, -, measured⟩ := fits (by norm_num [abs_le])
  exact ⟨by norm_num, reliable, rotation, skew, measured⟩

end PlacedText.Histogram
