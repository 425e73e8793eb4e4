import Mathlib
import PlacedText.Angle.TrimmedMean
import PlacedText.Proofs.Scalar.Stable

/-! # Trimmed means

The samples of a series lie one behind the other on the line of their weight. What the cuts leave of
the line is shared out among them: the share of a sample is the length of what is left of its
interval, relative to all that is left (`TrimmedMean.shareAt`). The trimmed mean and its variance
are sums weighted by these shares (`TrimmedMean.ofSamples_trims`).
-/

namespace PlacedText.TrimmedMean

/-! ## Intervals -/

/-- The length that two intervals have in common. -/
noncomputable def overlap (low high low' high' : ℝ) : ℝ := max 0 (min high high' - max low low')

section Overlap

variable {low high low' high' : ℝ}

theorem overlap_nonneg : 0 ≤ overlap low high low' high' := le_max_left _ _

theorem overlap_point : overlap low low low' high' = 0 :=
  max_eq_left (sub_nonpos.mpr ((min_le_left _ _).trans (le_max_left _ _)))

theorem overlap_before (before : high ≤ low') : overlap low high low' high' = 0 := by
  have short := (min_le_left high high').trans (before.trans (le_max_right low low'))
  exact max_eq_left (by linarith)

theorem overlap_behind (behind : high' ≤ low) : overlap low high low' high' = 0 := by
  have short := (min_le_right high high').trans (behind.trans (le_max_left low low'))
  exact max_eq_left (by linarith)

theorem overlap_enclosed (first : low ≤ low') (order : low' ≤ high') (last : high' ≤ high) :
    overlap low high low' high' = high' - low' := by
  unfold overlap
  rw [min_eq_right last, max_eq_right first, max_eq_right (by linarith)]

/-- What an interval has in common with another one is shared out among its parts. -/
theorem overlap_add {middle : ℝ} (first : low ≤ middle) (second : middle ≤ high) :
    overlap low middle low' high' + overlap middle high low' high' =
      overlap low high low' high' := by
  unfold overlap
  simp only [max_def, min_def]
  split_ifs <;> linarith

end Overlap

/-! ## Shares -/

/-- The weight in front of a position of a series, relative to that of the whole series. -/
noncomputable def weightBefore (series : List (Sample ℝ)) (position : Nat) : ℝ :=
  ((series.take position).map Sample.weight).sum / (series.map Sample.weight).sum

/-- The share of the sample at a position of a series in what is left when `head` is cut from the
front and `tail` from the end: the length of what is left of its interval, relative to all that is
left. -/
noncomputable def shareAt (head tail : ℝ) (series : List (Sample ℝ)) (position : Nat) : ℝ :=
  overlap (weightBefore series position) (weightBefore series (position + 1)) head (1 - tail) /
    (1 - head - tail)

/-- How samples are ordered, and how much is cut from the front and the end. -/
inductive Cut (quantile : ℝ) (samples : List (Sample ℝ)) :
    ℝ → ℝ → List (Sample ℝ) → Prop where
  | bothEnds {series : List (Sample ℝ)} (close : ∀ item ∈ samples, item.distance = 0)
    (sorted : Scalar.StableSort Sample.angle samples series) :
    Cut quantile samples quantile quantile series
  | farEnd {series : List (Sample ℝ)} (apart : ∃ item ∈ samples, item.distance ≠ 0)
    (sorted : Scalar.StableSort Sample.distance samples series) :
    Cut quantile samples 0 (2 * quantile) series

/-! ## What is left of a series -/

/-- A quantity summed up over what lies between two limits, where some weight is in front of the
series. -/
noncomputable def within (quantity : Sample ℝ → ℝ) (low high accumulated : ℝ)
    (series : List (Sample ℝ)) : ℝ :=
  ∑ i : Fin series.length, quantity series[i] *
    overlap (accumulated + ((series.take i).map Sample.weight).sum)
      (accumulated + ((series.take (i + 1)).map Sample.weight).sum) low high

section Within

variable {quantity : Sample ℝ → ℝ} {low high accumulated : ℝ} {item : Sample ℝ}
  {series rest : List (Sample ℝ)}

theorem within_nil : within quantity low high accumulated [] = 0 := by
  simp [within]

theorem within_cons : within quantity low high accumulated (item :: rest) =
    quantity item * overlap accumulated (accumulated + item.weight) low high +
      within quantity low high (accumulated + item.weight) rest := by
  unfold within
  refine (Fin.sum_univ_succ (n := rest.length) _).trans ?_
  simp [add_assoc]

/-- Samples that begin behind an interval of the weights have nothing in it. -/
theorem within_behind (weighed : ∀ item ∈ series, 0 ≤ item.weight) (behind : high ≤ accumulated) :
    within quantity low high accumulated series = 0 := by
  induction series generalizing accumulated with
  | nil => exact within_nil
  | cons item rest ih =>
    obtain ⟨here, later⟩ := List.forall_mem_cons.mp weighed
    rw [within_cons, overlap_behind behind, ih later (by linarith), mul_zero, add_zero]

/-- All that lies between the limits. -/
theorem within_one (weighed : ∀ item ∈ series, 0 ≤ item.weight) :
    within (fun _ => 1) low high accumulated series =
      overlap accumulated (accumulated + (series.map Sample.weight).sum) low high := by
  induction series generalizing accumulated with
  | nil =>
    rw [within_nil, List.map_nil, List.sum_nil, add_zero]
    exact overlap_point.symm
  | cons item rest ih =>
    obtain ⟨here, later⟩ := List.forall_mem_cons.mp weighed
    have nonneg : 0 ≤ (rest.map Sample.weight).sum := List.sum_nonneg (by simpa using later)
    rw [within_cons, ih later, one_mul, List.map_cons, List.sum_cons, ← add_assoc]
    exact overlap_add (by linarith) (by linarith)

end Within

/-! ## The shares of a sweep -/

section Sweep

variable {quantity : Sample ℝ → ℝ} {head limit body accumulated : ℝ} {series : List (Sample ℝ)}

/-- The shares of a sweep are those of what lies between the cuts. By induction on the samples;
whether the sweep is past the head cut goes with whether the accumulated weight is. -/
theorem sum_sharesFrom {inBody : Bool} (weighed : ∀ item ∈ series, 0 ≤ item.weight)
    (order : head ≤ limit) (inside : accumulated ≤ limit)
    (state : if inBody then head ≤ accumulated else accumulated ≤ head) :
    ((sharesFrom head limit body accumulated inBody series).map fun part =>
      quantity part.2 * part.1).sum = within quantity head limit accumulated series / body := by
  induction series generalizing accumulated inBody with
  | nil => simp [sharesFrom, within_nil]
  | cons item rest ih =>
    obtain ⟨here, later⟩ := List.forall_mem_cons.mp weighed
    unfold sharesFrom
    rw [within_cons]
    dsimp only
    split
    · next skipped =>
      rw [Bool.and_eq_true, decide_eq_true_eq] at skipped
      have before := skipped.2.le
      have rest := @ih _ false later (before.trans order) before
      rw [rest, overlap_before before, mul_zero, zero_add]
    · next entered =>
      -- what counts begins at the head cut or, behind it, at the sample itself
      obtain ⟨behind, counted⟩ : head ≤ accumulated + item.weight ∧
          (if inBody then item.weight else accumulated + item.weight - head) =
            accumulated + item.weight - max accumulated head := by
        cases inBody with
        | true =>
          rw [if_pos rfl] at state
          rw [if_pos rfl, max_eq_left state]
          exact ⟨by linarith, by ring⟩
        | false =>
          rw [max_eq_right state]
          exact ⟨by simpa using entered, rfl⟩
      have start : max accumulated head ≤ accumulated + item.weight := max_le (by linarith) behind
      rw [counted]
      split
      · next passed =>
        have whole : overlap accumulated (accumulated + item.weight) head limit =
            accumulated + item.weight - max accumulated head -
              (accumulated + item.weight - limit) := by
          have order := max_le inside order
          unfold overlap
          rw [min_eq_right passed.le, max_eq_right (sub_nonneg.mpr order)]
          ring
        rw [within_behind later passed.le, whole]
        simp [mul_div_assoc]
      · next short =>
        have whole : overlap accumulated (accumulated + item.weight) head limit =
            accumulated + item.weight - max accumulated head := by
          unfold overlap
          rw [min_eq_left (not_lt.mp short), max_eq_right (sub_nonneg.mpr start)]
        have rest := @ih _ true later (not_lt.mp short) behind
        rw [List.map_cons, List.sum_cons, rest, whole]
        ring

end Sweep

/-! ## Means of a series -/

/-- A weighted sum of the program is the sum over its parts. -/
theorem weighted_eq (quantity : Sample ℝ → ℝ → ℝ) (parts : List (ℝ × Sample ℝ)) :
    weighted quantity parts = (parts.map fun part => quantity part.2 part.1).sum := by
  have started (total : ℝ) : parts.foldl (fun total (share, item) => total + quantity item share)
      total = total + (parts.map fun part => quantity part.2 part.1).sum := by
    induction parts generalizing total with
    | nil => simp
    | cons part parts ih =>
      rw [List.foldl_cons, ih, List.map_cons, List.sum_cons, ← add_assoc]
  unfold weighted
  rw [started]
  norm_num

section Series

variable {head tail : ℝ} {series : List (Sample ℝ)}

/-- A quantity summed up with the shares that the samples of a series have. -/
theorem sum_shareAt_eq (quantity : Sample ℝ → ℝ) (whole : (series.map Sample.weight).sum = 1) :
    ∑ i : Fin series.length, shareAt head tail series i * quantity series[i] =
      within quantity head (1 - tail) 0 series / (1 - head - tail) := by
  unfold within shareAt weightBefore
  rw [Finset.sum_div]
  refine Finset.sum_congr rfl fun i _ => ?_
  rw [whole, div_one, div_one, zero_add, zero_add]
  ring

/-- A weighted sum over the samples that are kept is a sum over all samples by their shares, since a
sample that was cut away has the share zero. -/
theorem weighted_shares (quantity : Sample ℝ → ℝ) (weighed : ∀ item ∈ series, 0 ≤ item.weight)
    (whole : (series.map Sample.weight).sum = 1) (front : 0 ≤ head) (left : head + tail < 1) :
    weighted (fun item share => quantity item * share) (shares head tail series) =
      ∑ i : Fin series.length, shareAt head tail series i * quantity series[i] := by
  have one : (1.0 : ℝ) = 1 := by norm_num
  have zero : (0.0 : ℝ) = 0 := by norm_num
  have body : ¬(1 - head - tail ≤ 0) := by linarith
  rw [weighted_eq, sum_shareAt_eq quantity whole]
  unfold shares
  rw [one, zero, if_neg body]
  exact sum_sharesFrom weighed (by linarith) (by linarith) front

theorem shareAt_nonneg (left : head + tail < 1) (position : Nat) :
    0 ≤ shareAt head tail series position :=
  div_nonneg overlap_nonneg (by linarith)

/-- Where both cuts leave some of the weight, the shares of what is left sum to one. -/
theorem sum_shareAt_of_whole (weighed : ∀ item ∈ series, 0 ≤ item.weight)
    (whole : (series.map Sample.weight).sum = 1) (front : 0 ≤ head) (back : 0 ≤ tail)
    (left : head + tail < 1) : ∑ i : Fin series.length, shareAt head tail series i = 1 := by
  have summed : ∑ i : Fin series.length, shareAt head tail series i * 1 = _ :=
    sum_shareAt_eq (fun _ => 1) whole
  simp only [mul_one] at summed
  rw [summed, within_one weighed, whole, overlap_enclosed front (by linarith) (by linarith),
    sub_right_comm]
  exact div_self (by linarith)

end Series

/-! ## Weights relative to their sum -/

/-- A sample with its weight relative to a total. -/
noncomputable def relative (total : ℝ) (item : Sample ℝ) : Sample ℝ :=
  { item with weight := item.weight / total }

theorem sum_relative (total : ℝ) (series : List (Sample ℝ)) :
    ((series.map (relative total)).map Sample.weight).sum =
      (series.map Sample.weight).sum / total := by
  rw [List.map_map, div_eq_mul_inv, ← List.sum_map_mul_right]
  rfl

section Relative

variable {head tail total : ℝ} {series : List (Sample ℝ)}

/-- Shares do not depend on the unit of the weights. -/
theorem shareAt_relative (nonzero : total ≠ 0) (head tail : ℝ) (position : Nat) :
    shareAt head tail (series.map (relative total)) position =
      shareAt head tail series position := by
  have before (position : Nat) : weightBefore (series.map (relative total)) position =
      weightBefore series position := by
    unfold weightBefore
    rw [← List.map_take, sum_relative, sum_relative, div_div_div_cancel_right₀ nonzero]
  unfold shareAt
  rw [before, before]

/-- What is summed up with shares does not hang on what weights are relative to. -/
theorem sum_shareAt_relative (quantity : Sample ℝ → ℝ) (nonzero : total ≠ 0)
    (unweighed : ∀ item, quantity (relative total item) = quantity item) (head tail : ℝ)
    (series : List (Sample ℝ)) :
    ∑ i : Fin (series.map (relative total)).length,
        shareAt head tail (series.map (relative total)) i *
          quantity (series.map (relative total))[i] =
      ∑ i : Fin series.length, shareAt head tail series i * quantity series[i] := by
  refine Fintype.sum_equiv (finCongr (List.length_map _)) _ _ fun i => ?_
  rw [shareAt_relative nonzero]
  simp [unweighed]

section Moments

variable (weighed : ∀ item ∈ series, 0 ≤ item.weight)
  (positive : 0 < (series.map Sample.weight).sum)

include weighed positive

/-- Divided by their total, the weights of a series are nonnegative and sum to one. -/
theorem relative_series :
    (∀ item ∈ series.map (relative (series.map Sample.weight).sum), 0 ≤ item.weight) ∧
      ((series.map (relative (series.map Sample.weight).sum)).map Sample.weight).sum = 1 := by
  constructor
  · intro item member
    obtain ⟨own, present, rfl⟩ := List.mem_map.mp member
    exact div_nonneg (weighed own present) positive.le
  · rw [sum_relative, div_self positive.ne']

/-- Mean and variance of what is left of a series. -/
theorem ofSeries_relative (front : 0 ≤ head) (left : head + tail < 1) :
    let stats := ofSeries head tail (series.map (relative (series.map Sample.weight).sum))
    stats.mean = ∑ i : Fin series.length, shareAt head tail series i * series[i].angle ∧
      0 ≤ stats.deviation ∧ stats.deviation ^ 2 =
        ∑ i : Fin series.length, shareAt head tail series i *
          (series[i].angle - stats.mean) ^ 2 := by
  intro stats
  obtain ⟨nonneg, whole⟩ := relative_series weighed positive
  have mean : stats.mean =
      ∑ i : Fin series.length, shareAt head tail series i * series[i].angle :=
    (weighted_shares Sample.angle nonneg whole front left).trans
      (sum_shareAt_relative Sample.angle positive.ne' (fun _ => rfl) head tail series)
  have deviation : stats.deviation = Real.sqrt (∑ i : Fin series.length,
      shareAt head tail series i * (series[i].angle - stats.mean) ^ 2) := by
    simp only [sq]
    let offset (item : Sample ℝ) := (item.angle - stats.mean) * (item.angle - stats.mean)
    exact congrArg Real.sqrt ((weighted_shares offset nonneg whole front left).trans
      (sum_shareAt_relative offset positive.ne' (fun _ => rfl) head tail series))
  refine ⟨mean, ?_, ?_⟩
  · rw [deviation]
    exact Real.sqrt_nonneg _
  · rw [deviation, Real.sq_sqrt]
    exact Finset.sum_nonneg fun i _ => mul_nonneg (shareAt_nonneg left i) (sq_nonneg _)

/-- The shares are all of what is left. -/
theorem sum_shareAt (front : 0 ≤ head) (back : 0 ≤ tail) (left : head + tail < 1) :
    ∑ i : Fin series.length, shareAt head tail series i = 1 := by
  obtain ⟨nonneg, whole⟩ := relative_series weighed positive
  have same := sum_shareAt_relative (fun _ => 1) positive.ne' (fun _ => rfl) head tail series
  simp only [mul_one] at same
  rw [← same]
  exact sum_shareAt_of_whole nonneg whole front back left

end Moments

end Relative

namespace Cut

variable {quantile head tail : ℝ} {samples series : List (Sample ℝ)}

theorem perm (cut : Cut quantile samples head tail series) : series.Perm samples := by
  cases cut with
  | bothEnds _ sorted => exact sorted.perm
  | farEnd _ sorted => exact sorted.perm

theorem bounds (cut : Cut quantile samples head tail series) (above : 0 < quantile)
    (below : quantile < 1 / 2) : 0 ≤ head ∧ 0 ≤ tail ∧ head + tail < 1 := by
  cases cut with
  | bothEnds => exact ⟨above.le, above.le, by linarith⟩
  | farEnd => exact ⟨le_rfl, by linarith, by linarith⟩

end Cut

/-! ## Samples of any weight -/

section Samples

variable {samples : List (Sample ℝ)} {quantile : ℝ}

/-- Samples with a weight are made relative to the sum of their weights. -/
theorem ofSamples_eq_ofNormalized (several : 2 ≤ samples.length)
    (positive : 0 < (samples.map Sample.weight).sum) (quantile : ℝ) :
    ofSamples samples quantile =
      ofNormalized (samples.map (relative (samples.map Sample.weight).sum)) quantile := by
  have zero : (0.0 : ℝ) = 0 := by norm_num
  obtain ⟨first, second, rest, rfl⟩ : ∃ first second rest, samples = first :: second :: rest := by
    match samples, several with
    | first :: second :: rest, _ => exact ⟨first, second, rest, rfl⟩
  unfold ofSamples
  dsimp only
  rw [Scalar.sum_eq, zero, if_neg (not_le.mpr positive)]
  rfl

/-- Samples are ordered and cut, and their trimmed mean is that of the series they make. -/
theorem exists_cut (several : 2 ≤ samples.length) (positive : 0 < (samples.map Sample.weight).sum)
    (above : 0 < quantile) :
    ∃ head tail series, Cut quantile samples head tail series ∧ ofSamples samples quantile =
      ofSeries head tail (series.map (relative (series.map Sample.weight).sum)) := by
  have zero : (0.0 : ℝ) = 0 := by norm_num
  have two : (2.0 : ℝ) = 2 := by norm_num
  have total {series : List (Sample ℝ)} (same : series.Perm samples) :
      (series.map Sample.weight).sum = (samples.map Sample.weight).sum := (same.map _).sum_eq
  rw [ofSamples_eq_ofNormalized several positive]
  unfold ofNormalized
  rw [zero, if_neg (not_le.mpr above), two]
  by_cases close : ∀ item ∈ samples, item.distance = 0
  · refine ⟨quantile, quantile, _, .bothEnds close (Scalar.sortOn_stable _ samples), ?_⟩
    rw [if_pos (by simpa [relative] using close), Scalar.sortOn_map,
      total (Scalar.sortOn_perm _ samples)]
    rfl
  · refine ⟨0, 2 * quantile, _, .farEnd (by simpa using close) (Scalar.sortOn_stable _ samples), ?_⟩
    rw [if_neg (by simpa [relative] using close), Scalar.sortOn_map,
      total (Scalar.sortOn_perm _ samples), mul_comm]
    rfl

/-- **The trimmed mean is that of what the cuts leave.** Samples are ordered by their angles and cut
at both ends if none is at a distance, and else by their distances and cut at the far end, twice as
much. Mean and variance are weighted by the shares in what is left. These are not negative and add
up to one, so the mean is not beyond all of the angles. -/
theorem ofSamples_trims (several : 2 ≤ samples.length)
    (weighed : ∀ item ∈ samples, 0 ≤ item.weight) (positive : 0 < (samples.map Sample.weight).sum)
    (above : 0 < quantile) (below : quantile < 1 / 2) :
    let stats := ofSamples samples quantile
    ∃ head tail series, Cut quantile samples head tail series ∧
      stats.mean = ∑ i : Fin series.length, shareAt head tail series i * series[i].angle ∧
      0 ≤ stats.deviation ∧ stats.deviation ^ 2 =
        ∑ i : Fin series.length, shareAt head tail series i *
          (series[i].angle - stats.mean) ^ 2 ∧
      (∀ position, 0 ≤ shareAt head tail series position) ∧
      ∑ i : Fin series.length, shareAt head tail series i = 1 ∧
      ∀ least greatest, (∀ item ∈ samples, least ≤ item.angle ∧ item.angle ≤ greatest) →
        least ≤ stats.mean ∧ stats.mean ≤ greatest := by
  intro stats
  obtain ⟨head, tail, series, cut, same⟩ := exists_cut several positive above
  obtain ⟨front, back, left⟩ := cut.bounds above below
  have weighed' : ∀ item ∈ series, 0 ≤ item.weight :=
    fun item member => weighed item (cut.perm.mem_iff.mp member)
  have positive' : 0 < (series.map Sample.weight).sum := by
    rwa [(cut.perm.map Sample.weight).sum_eq]
  have moments := ofSeries_relative weighed' positive' front left
  rw [← same] at moments
  obtain ⟨mean, nonneg, variance⟩ := moments
  have shared := sum_shareAt weighed' positive' front back left
  refine ⟨head, tail, series, cut, mean, nonneg, variance, shareAt_nonneg left, shared, ?_⟩
  intro least greatest between
  have bound (i : Fin series.length) : series[i].angle ∈ Set.Icc least greatest :=
    between series[i] (cut.perm.mem_iff.mp (List.getElem_mem _))
  rw [mean, ← Set.mem_Icc]
  exact (convex_Icc least greatest).sum_mem (fun (i : Fin series.length) _ => shareAt_nonneg left i)
    shared fun i _ => bound i

/-- An angle that has eight tenths of the weight is the mean when a tenth is cut from either end,
whatever lies beyond the cuts. -/
theorem ofSamples_trims_outliers :
    let samples : List (Sample ℝ) := [⟨90, 1, 0⟩, ⟨2, 8, 0⟩, ⟨-60, 1, 0⟩]
    2 ≤ samples.length ∧ (∀ item ∈ samples, 0 ≤ item.weight) ∧
      0 < (samples.map Sample.weight).sum ∧ (ofSamples samples (1 / 10)).mean = 2 := by
  intro samples
  have weighed : ∀ item ∈ samples, 0 ≤ item.weight := by norm_num [samples]
  have positive : 0 < (samples.map Sample.weight).sum := by norm_num [samples]
  refine ⟨by decide, weighed, positive, ?_⟩
  obtain ⟨head, tail, series, cut, mean, -⟩ :=
    ofSamples_trims (by decide : 2 ≤ samples.length) weighed positive
      (by norm_num : (0 : ℝ) < 1 / 10) (by norm_num)
  cases cut with
  | farEnd apart _ => norm_num [samples] at apart
  | bothEnds _ sorted =>
    have order : [⟨-60, 1, 0⟩, ⟨2, 8, 0⟩, (⟨90, 1, 0⟩ : Sample ℝ)].Pairwise fun item later =>
        Scalar.totalLE item.angle later.angle = true := by norm_num [Scalar.totalLE]
    have distinct : (samples.map Sample.angle).Nodup := by norm_num [samples]
    have same : series = [⟨-60, 1, 0⟩, ⟨2, 8, 0⟩, ⟨90, 1, 0⟩] := by
      refine (sorted.perm.trans (List.reverse_perm _).symm).eq_of_pairwise
        (fun item other member member' le ge => ?_) sorted.ascending order
      exact List.inj_on_of_nodup_map distinct (sorted.perm.mem_iff.mp member)
        (List.mem_reverse.mp member') (le_antisymm (of_decide_eq_true le) (of_decide_eq_true ge))
    subst same
    rw [mean]
    refine (Fin.sum_univ_three _).trans ?_
    norm_num [shareAt, weightBefore, overlap]

end Samples

end PlacedText.TrimmedMean
