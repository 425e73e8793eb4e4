import Mathlib
import PlacedText.Proofs.Angle.Trimming

/-! # What trimmed means follow

A trimmed mean lies between the angles of its samples as long as the cuts leave any of them
(`TrimmedMean.mean_between`); where they leave none it is zero, without deviation
(`TrimmedMean.ofSamples_of_half_le`). It moves with its samples (`TrimmedMean.ofSamples_moved`), and
samples at different distances may come in any order (`TrimmedMean.ofSamples_perm`).
-/

namespace PlacedText.TrimmedMean

variable {samples samples' series : List (Sample ℝ)} {quantile head tail least greatest : ℝ}

/-- The plain mean of samples, without cuts. -/
theorem ofSamples_uncut (several : 2 ≤ samples.length)
    (positive : 0 < (samples.map Sample.weight).sum) (uncut : quantile ≤ 0) :
    ofSamples samples quantile =
      ⟨((samples.map (relative (samples.map Sample.weight).sum)).map
        fun item => item.angle * item.weight).sum, 0⟩ := by
  have zero : (0.0 : ℝ) = 0 := by norm_num
  rw [ofSamples_eq_ofNormalized several positive]
  unfold ofNormalized
  rw [zero, if_pos uncut, Scalar.sum_eq]

/-- Fewer than two samples with a weight are one. -/
theorem exists_only (positive : 0 < (samples.map Sample.weight).sum) (few : ¬2 ≤ samples.length) :
    ∃ only, samples = [only] := by
  have present : samples ≠ [] := by
    rintro rfl
    simp at positive
  have some := List.length_pos_of_ne_nil present
  exact List.length_eq_one_iff.mp (by omega)

/-! ## Between the angles -/

/-- A plain mean lies between the angles. -/
theorem sum_between (weighed : ∀ item ∈ series, 0 ≤ item.weight)
    (whole : (series.map Sample.weight).sum = 1)
    (between : ∀ item ∈ series, least ≤ item.angle ∧ item.angle ≤ greatest) :
    least ≤ (series.map fun item => item.angle * item.weight).sum ∧
      (series.map fun item => item.angle * item.weight).sum ≤ greatest := by
  have below : (series.map fun item => least * item.weight).sum ≤
      (series.map fun item => item.angle * item.weight).sum :=
    List.sum_le_sum fun item member =>
      mul_le_mul_of_nonneg_right (between item member).1 (weighed item member)
  have above : (series.map fun item => item.angle * item.weight).sum ≤
      (series.map fun item => greatest * item.weight).sum :=
    List.sum_le_sum fun item member =>
      mul_le_mul_of_nonneg_right (between item member).2 (weighed item member)
  rw [List.sum_map_mul_left, whole, mul_one] at below above
  exact ⟨below, above⟩

/-- The mean of what cuts leave of a series lies between the angles. -/
theorem ofSeries_between (weighed : ∀ item ∈ series, 0 ≤ item.weight)
    (positive : 0 < (series.map Sample.weight).sum) (front : 0 ≤ head) (back : 0 ≤ tail)
    (left : head + tail < 1)
    (between : ∀ item ∈ series, least ≤ item.angle ∧ item.angle ≤ greatest) :
    let stats := ofSeries head tail (series.map (relative (series.map Sample.weight).sum))
    least ≤ stats.mean ∧ stats.mean ≤ greatest := by
  intro stats
  obtain ⟨mean, -⟩ := ofSeries_relative weighed positive front left
  have angles (i : Fin series.length) : series[i].angle ∈ Set.Icc least greatest :=
    between series[i] (List.getElem_mem _)
  rw [← Set.mem_Icc, mean]
  exact (convex_Icc least greatest).sum_mem (fun (i : Fin series.length) _ => shareAt_nonneg left i)
    (sum_shareAt weighed positive front back left) fun i _ => angles i

/-- **A trimmed mean lies between the angles of its samples**, unless everything is cut away. -/
theorem mean_between (weighed : ∀ item ∈ samples, 0 ≤ item.weight)
    (positive : 0 < (samples.map Sample.weight).sum) (below : quantile < 1 / 2)
    (between : ∀ item ∈ samples, least ≤ item.angle ∧ item.angle ≤ greatest) :
    least ≤ (ofSamples samples quantile).mean ∧ (ofSamples samples quantile).mean ≤ greatest := by
  by_cases several : 2 ≤ samples.length
  · by_cases trims : 0 < quantile
    · obtain ⟨head, tail, series, cut, same⟩ := exists_cut several positive trims
      obtain ⟨front, back, left⟩ := cut.bounds trims below
      rw [same]
      refine ofSeries_between (fun item member => weighed item (cut.perm.mem_iff.mp member)) ?_
        front back left fun item member => between item (cut.perm.mem_iff.mp member)
      rwa [(cut.perm.map Sample.weight).sum_eq]
    · obtain ⟨nonneg, whole⟩ := relative_series weighed positive
      rw [ofSamples_uncut several positive (not_lt.mp trims)]
      refine sum_between nonneg whole fun item member => ?_
      obtain ⟨own, here, rfl⟩ := List.mem_map.mp member
      exact between own here
  · obtain ⟨only, rfl⟩ := exists_only positive several
    exact between only (.head _)

/-! ## Nothing left -/

/-- Where the cuts meet, nothing is left of a series. -/
theorem ofSeries_of_one_le (meet : 1 ≤ head + tail) (series : List (Sample ℝ)) :
    ofSeries head tail series = ⟨0, 0⟩ := by
  have one : (1.0 : ℝ) = 1 := by norm_num
  have zero : (0.0 : ℝ) = 0 := by norm_num
  have none : shares head tail series = [] := by
    unfold shares
    rw [one, zero, if_pos (by linarith)]
  unfold ofSeries
  simp only [none, weighted_eq, List.map_nil, List.sum_nil]
  exact congrArg (AngleStats.mk 0) Real.sqrt_zero

/-- Half of the weight from either end, or all of it from one, leaves no samples. -/
theorem ofSamples_of_half_le (several : 2 ≤ samples.length)
    (positive : 0 < (samples.map Sample.weight).sum) (half : 1 / 2 ≤ quantile) :
    ofSamples samples quantile = ⟨0, 0⟩ := by
  obtain ⟨head, tail, series, cut, same⟩ := exists_cut several positive (by linarith)
  rw [same]
  cases cut with
  | bothEnds => exact ofSeries_of_one_le (by linarith) _
  | farEnd => exact ofSeries_of_one_le (by linarith) _

/-! ## Samples that move -/

/-- A sample at another angle, as far from the estimate. -/
def moved (offset : ℝ) (item : Sample ℝ) : Sample ℝ := { item with angle := item.angle + offset }

theorem map_weight_moved (offset : ℝ) (series : List (Sample ℝ)) :
    (series.map (moved offset)).map Sample.weight = series.map Sample.weight := by
  simp [Function.comp_def, moved]

theorem map_distance_moved (offset : ℝ) (series : List (Sample ℝ)) :
    (series.map (moved offset)).map Sample.distance = series.map Sample.distance := by
  simp [Function.comp_def, moved]

/-- The shares hang on the weights alone. -/
theorem sharesFrom_moved (offset limit body accumulated : ℝ) (inBody : Bool)
    (series : List (Sample ℝ)) :
    sharesFrom head limit body accumulated inBody (series.map (moved offset)) =
      (sharesFrom head limit body accumulated inBody series).map
        (Prod.map id (moved offset)) := by
  induction series generalizing accumulated inBody with
  | nil => rfl
  | cons item rest ih =>
    rw [List.map_cons]
    unfold sharesFrom
    dsimp only [moved]
    split
    · exact ih _ _
    · split
      · rfl
      · rw [ih, List.map_cons]
        rfl

/-- The cuts see weights and not angles, so moved samples keep their shares. -/
theorem shares_moved (offset : ℝ) (series : List (Sample ℝ)) :
    shares head tail (series.map (moved offset)) =
      (shares head tail series).map (Prod.map id (moved offset)) := by
  unfold shares
  dsimp only
  split
  · rfl
  · exact sharesFrom_moved _ _ _ _ _ _

/-- All shares together are what is left. -/
theorem sum_shares (weighed : ∀ item ∈ series, 0 ≤ item.weight)
    (whole : (series.map Sample.weight).sum = 1) (front : 0 ≤ head) (back : 0 ≤ tail)
    (left : head + tail < 1) : ((shares head tail series).map Prod.fst).sum = 1 := by
  have ones := weighted_shares (fun _ => 1) weighed whole front left
  rw [weighted_eq] at ones
  simp only [one_mul, mul_one] at ones
  exact ones.trans (sum_shareAt_of_whole weighed whole front back left)

theorem weighted_moved (quantity : Sample ℝ → ℝ → ℝ) (offset : ℝ) (parts : List (ℝ × Sample ℝ)) :
    weighted quantity (parts.map (Prod.map id (moved offset))) =
      weighted (fun item share => quantity (moved offset item) share) parts :=
  List.foldl_map

/-- What is left of a series moves with it. -/
theorem ofSeries_moved (weighed : ∀ item ∈ series, 0 ≤ item.weight)
    (whole : (series.map Sample.weight).sum = 1) (front : 0 ≤ head) (back : 0 ≤ tail)
    (left : head + tail < 1) (offset : ℝ) :
    ofSeries head tail (series.map (moved offset)) =
      ⟨(ofSeries head tail series).mean + offset, (ofSeries head tail series).deviation⟩ := by
  have ones := sum_shares weighed whole front back left
  have mean : weighted (fun item share => (moved offset item).angle * share)
      (shares head tail series) =
        weighted (fun item share => item.angle * share) (shares head tail series) + offset := by
    rw [weighted_eq, weighted_eq]
    simp only [moved, add_mul]
    rw [List.sum_map_add, List.sum_map_mul_left, ones, mul_one]
  unfold ofSeries
  simp only [shares_moved, weighted_moved, mean]
  simp only [moved, add_sub_add_right_eq_sub]

theorem relative_moved (total offset : ℝ) (series : List (Sample ℝ)) :
    (series.map (moved offset)).map (relative total) =
      (series.map (relative total)).map (moved offset) := by
  rw [List.map_map, List.map_map]
  rfl

/-- Moving samples does not change how they are sorted. -/
theorem sortOn_moved (offset : ℝ) (series : List (Sample ℝ)) :
    Scalar.sortOn Sample.angle (series.map (moved offset)) =
      (Scalar.sortOn Sample.angle series).map (moved offset) := by
  rw [Scalar.sortOn_map]
  congr 1
  unfold Scalar.sortOn
  congr 1
  funext first second
  exact decide_eq_decide.mpr (add_le_add_iff_right offset)

/-- The mean of moved angles is the moved mean, with the same deviation: as long as something is
left between the cuts the shares sum to one. -/
theorem ofNormalized_moved (weighed : ∀ item ∈ series, 0 ≤ item.weight)
    (whole : (series.map Sample.weight).sum = 1) (below : quantile < 1 / 2) (offset : ℝ) :
    ofNormalized (series.map (moved offset)) quantile =
      ⟨(ofNormalized series quantile).mean + offset, (ofNormalized series quantile).deviation⟩ := by
  have zero : (0.0 : ℝ) = 0 := by norm_num
  have two : (2.0 : ℝ) = 2 := by norm_num
  have close : (series.map (moved offset)).all (fun item => item.distance == 0) =
      series.all fun item => item.distance == 0 := List.all_map
  have sorted (key : Sample ℝ → ℝ) : (∀ item ∈ Scalar.sortOn key series, 0 ≤ item.weight) ∧
      ((Scalar.sortOn key series).map Sample.weight).sum = 1 := by
    have perm := Scalar.sortOn_perm key series
    refine ⟨fun item member => weighed item (perm.mem_iff.mp member), ?_⟩
    rw [(perm.map Sample.weight).sum_eq, whole]
  unfold ofNormalized
  rw [zero, two]
  split
  · rw [Scalar.sum_eq, Scalar.sum_eq, List.map_map]
    simp only [Function.comp_def, moved, add_mul]
    rw [List.sum_map_add, List.sum_map_mul_left, whole, mul_one]
  · rw [close]
    split
    · rw [sortOn_moved]
      obtain ⟨weighed', whole'⟩ := sorted Sample.angle
      exact ofSeries_moved weighed' whole' (by linarith) (by linarith) (by linarith) offset
    · rw [Scalar.sortOn_map]
      obtain ⟨weighed', whole'⟩ := sorted Sample.distance
      exact ofSeries_moved weighed' whole' le_rfl (by linarith) (by linarith) offset

/-- **A trimmed mean moves with its samples**, and they deviate from it as before. -/
theorem ofSamples_moved (weighed : ∀ item ∈ samples, 0 ≤ item.weight)
    (positive : 0 < (samples.map Sample.weight).sum) (below : quantile < 1 / 2) (offset : ℝ) :
    ofSamples (samples.map (moved offset)) quantile =
      ⟨(ofSamples samples quantile).mean + offset, (ofSamples samples quantile).deviation⟩ := by
  have weights := map_weight_moved offset samples
  by_cases several : 2 ≤ samples.length
  · obtain ⟨nonneg, whole⟩ := relative_series weighed positive
    rw [ofSamples_eq_ofNormalized several positive, ofSamples_eq_ofNormalized
      (by rwa [List.length_map]) (by rwa [weights]), weights, relative_moved]
    exact ofNormalized_moved nonneg whole below offset
  · obtain ⟨only, rfl⟩ := exists_only positive several
    rfl

/-! ## Samples in another order -/

/-- The order of the samples does not show where no two are equally far away: both are sorted by
distance, and there is one such order. Two samples at least are asked for, so that the distances are
not all zero. -/
theorem ofNormalized_perm {series' : List (Sample ℝ)} (perm : series.Perm series')
    (several : 2 ≤ series.length) (apart : (series.map Sample.distance).Nodup) (quantile : ℝ) :
    ofNormalized series quantile = ofNormalized series' quantile := by
  have zero : (0.0 : ℝ) = 0 := by norm_num
  -- two distances that differ are not both zero, so the samples are sorted by them
  have far : ¬(series.all (fun item => item.distance == 0) = true) := by
    intro close
    have zeros : ∀ item ∈ series, item.distance = 0 := by simpa using close
    obtain ⟨first, second, rest, rfl⟩ :
        ∃ first second rest, series = first :: second :: rest := by
      match series, several with
      | first :: second :: rest, _ => exact ⟨first, second, rest, rfl⟩
    have same : first.distance = second.distance :=
      (zeros first (by simp)).trans (zeros second (by simp)).symm
    exact (List.nodup_cons.mp apart).1 (by simp [same])
  have sorted : Scalar.sortOn Sample.distance series = Scalar.sortOn Sample.distance series' := by
    have unordered (items : List (Sample ℝ)) : items.Pairwise fun _ _ => True :=
      List.pairwise_of_forall fun _ _ => trivial
    refine Scalar.sortOn_eq_of_perm Sample.distance perm (unordered _) (unordered _) ?_
    intro item member other member' same _ _
    exact List.inj_on_of_nodup_map apart member member' same
  unfold ofNormalized
  rw [zero, ← perm.all_eq, if_neg far, if_neg far, sorted, Scalar.sum_eq, Scalar.sum_eq,
    (perm.map _).sum_eq]

/-- **Samples at different distances may come in any order.** -/
theorem ofSamples_perm (perm : samples.Perm samples')
    (positive : 0 < (samples.map Sample.weight).sum)
    (apart : (samples.map Sample.distance).Nodup) (quantile : ℝ) :
    ofSamples samples quantile = ofSamples samples' quantile := by
  have weights := (perm.map Sample.weight).sum_eq
  by_cases several : 2 ≤ samples.length
  · rw [ofSamples_eq_ofNormalized several positive, ofSamples_eq_ofNormalized
      (by rwa [← perm.length_eq]) (by rwa [← weights]), ← weights]
    refine ofNormalized_perm (perm.map _) (by rwa [List.length_map]) ?_ quantile
    rwa [List.map_map]
  · obtain ⟨only, rfl⟩ := exists_only positive several
    rw [List.singleton_perm.mp perm]

end PlacedText.TrimmedMean
