import Mathlib
import PlacedText.Proofs.Angle.Anchors
import PlacedText.Proofs.Angle.Circle
import PlacedText.Proofs.Page.Bands

/-! # Bands across the seam

Bands are laid out on the line between `-180` and `180`, where they meet half way between their
anchors. Across the seam, from the last anchor on to the first one, they reach as far as the
threshold. So the anchor that an angle is given is the nearest one as long as the way across the
seam is at least twice the threshold, and only then (`Clusters.bandOf_nearest_iff`).
-/

namespace PlacedText.Clusters

variable {clusters : Clusters ℝ}

/-- Whether the band of the last anchor ends, across the seam, before that of the first one begins.
-/
def SeamClear (clusters : Clusters ℝ) : Prop :=
  ∀ first last, clusters.angles.head? = some first → clusters.angles.getLast? = some last →
    first < last → last + clusters.threshold ≤ first + 360 - clusters.threshold

/-- Whether an angle lies within the limits of a band, read modulo full turns. -/
def InBand (clusters : Clusters ℝ) (index : Nat) (angle : ℝ) : Prop :=
  ∃ left right, clusters.limits? index = some (left, right) ∧
    ∃ turns : ℤ, left ≤ angle + turns * 360 ∧ angle + turns * 360 < right

/-- Whether no anchor is nearer to an angle than that of a cluster. -/
def Nearest (clusters : Clusters ℝ) (angle : ℝ) (index : Nat) : Prop :=
  ∃ anchor, clusters.angles[index]? = some anchor ∧
    ∀ other ∈ clusters.angles, Angle.distance anchor angle ≤ Angle.distance other angle

/-! ## Limits -/

/-- The limits of a band: half way to the anchor next to it, or as far as the threshold. -/
theorem limits_eq {index : Nat} {anchor : ℝ} (here : clusters.angles[index]? = some anchor) :
    ∃ left right, clusters.limits? index = some (left, right) ∧
      (index = 0 ∧ left = anchor - clusters.threshold ∨
        ∃ previous before, index = previous + 1 ∧ clusters.angles[previous]? = some before ∧
          2 * left = before + anchor) ∧
      (clusters.angles[index + 1]? = none ∧ right = anchor + clusters.threshold ∨
        ∃ after, clusters.angles[index + 1]? = some after ∧ 2 * right = anchor + after) := by
  have bounded := (List.getElem?_eq_some_iff.mp here).1
  have half (sum : ℝ) : 2 * (sum / 2.0) = sum := by
    norm_num
    ring
  unfold limits?
  rw [here, Option.map_some]
  refine ⟨_, _, rfl, ?_, ?_⟩
  · cases index with
    | zero => exact .inl ⟨rfl, rfl⟩
    | succ previous =>
      have before := List.getElem?_eq_getElem (Nat.lt_of_succ_lt bounded)
      refine .inr ⟨previous, _, rfl, before, ?_⟩
      rw [if_neg (Nat.succ_ne_zero previous), Nat.add_sub_cancel, before]
      exact half _
  · cases next : clusters.angles[index + 1]? with
    | none => exact .inl ⟨rfl, rfl⟩
    | some after => exact .inr ⟨after, rfl, half _⟩

section Limits

variable {i j : Nat} {a b left right : ℝ}

theorem Normal.lt (normal : clusters.Normal) (first : clusters.angles[i]? = some a)
    (second : clusters.angles[j]? = some b) (less : i < j) : a < b := by
  obtain ⟨bounded, rfl⟩ := List.getElem?_eq_some_iff.mp first
  obtain ⟨bounded', rfl⟩ := List.getElem?_eq_some_iff.mp second
  exact List.pairwise_iff_getElem.mp normal.ascending i j bounded bounded' less

theorem Normal.le (normal : clusters.Normal) (first : clusters.angles[i]? = some a)
    (second : clusters.angles[j]? = some b) (le : i ≤ j) : a ≤ b := by
  rcases le.lt_or_eq with less | rfl
  · exact (normal.lt first second less).le
  · cases first.symm.trans second
    exact le_rfl

/-- The limits of a band lie on either side of its anchor. -/
theorem Normal.limits_around (normal : clusters.Normal) (positive : 0 < clusters.threshold)
    (here : clusters.angles[i]? = some a) (limits : clusters.limits? i = some (left, right)) :
    left < a ∧ a < right := by
  obtain ⟨_, _, own, outLeft, outRight⟩ := limits_eq here
  cases limits.symm.trans own
  constructor
  · rcases outLeft with ⟨_, outermost⟩ | ⟨previous, before, rfl, next, middle⟩
    · linarith
    · have less := normal.lt next here (Nat.lt_succ_self previous)
      linarith
  · rcases outRight with ⟨_, outermost⟩ | ⟨after, next, middle⟩
    · linarith
    · have less := normal.lt here next (Nat.lt_succ_self i)
      linarith

/-- On the line, a band ends before the middle of the way to any later anchor. -/
theorem Normal.right_le (normal : clusters.Normal) (here : clusters.angles[i]? = some a)
    (limits : clusters.limits? i = some (left, right)) (there : clusters.angles[j]? = some b)
    (later : i < j) : 2 * right ≤ a + b := by
  obtain ⟨_, _, own, _, outermost | ⟨after, next, middle⟩⟩ := limits_eq here
  · have short := List.getElem?_eq_none_iff.mp outermost.1
    have long := (List.getElem?_eq_some_iff.mp there).1
    omega
  · cases limits.symm.trans own
    have between := normal.le next there later
    linarith

/-- On the line, a band begins behind the middle of the way from any earlier anchor. -/
theorem Normal.le_left (normal : clusters.Normal) (here : clusters.angles[i]? = some a)
    (limits : clusters.limits? i = some (left, right)) (there : clusters.angles[j]? = some b)
    (earlier : j < i) : b + a ≤ 2 * left := by
  obtain ⟨_, _, own, outermost | ⟨previous, before, rfl, next, middle⟩, _⟩ := limits_eq here
  · omega
  · cases limits.symm.trans own
    have between := normal.le there next (Nat.le_of_lt_succ earlier)
    linarith

/-- Across the seam, a band ends before the middle of the way to any earlier anchor. -/
theorem Normal.right_le_seam (normal : clusters.Normal) (clear : clusters.SeamClear)
    (here : clusters.angles[i]? = some a) (limits : clusters.limits? i = some (left, right))
    (there : clusters.angles[j]? = some b) (earlier : j < i) : 2 * right ≤ a + b + 360 := by
  obtain ⟨_, _, own, _, ⟨outermost, reach⟩ | ⟨after, next, middle⟩⟩ := limits_eq here
  · cases limits.symm.trans own
    have long := (List.getElem?_eq_some_iff.mp here).1
    have short := List.getElem?_eq_none_iff.mp outermost
    have last : clusters.angles.getLast? = some a := by
      rw [List.getLast?_eq_getElem?, ← here]
      congr 1
      omega
    have head := List.head?_eq_getElem? (l := clusters.angles)
    rw [List.getElem?_eq_getElem (by omega)] at head
    have gap := clear _ a head last
      (normal.lt (List.getElem?_eq_getElem (by omega)) here (by omega))
    have before := normal.le (List.getElem?_eq_getElem (by omega)) there (Nat.zero_le j)
    linarith
  · cases limits.symm.trans own
    have below := (normal.normal after (List.mem_of_getElem? next)).2
    have above := (normal.normal b (List.mem_of_getElem? there)).1
    linarith

/-- Across the seam, a band begins behind the middle of the way from any later anchor. -/
theorem Normal.seam_le_left (normal : clusters.Normal) (clear : clusters.SeamClear)
    (here : clusters.angles[i]? = some a) (limits : clusters.limits? i = some (left, right))
    (there : clusters.angles[j]? = some b) (later : i < j) : a + b - 360 ≤ 2 * left := by
  obtain ⟨_, _, own, ⟨rfl, reach⟩ | ⟨previous, before, rfl, next, middle⟩, _⟩ := limits_eq here
  · cases limits.symm.trans own
    have long := (List.getElem?_eq_some_iff.mp there).1
    have head : clusters.angles.head? = some a := List.head?_eq_getElem?.trans here
    have last := List.getLast?_eq_getElem? (l := clusters.angles)
    rw [List.getElem?_eq_getElem (by omega)] at last
    have gap := clear a _ head last
      (normal.lt here (List.getElem?_eq_getElem (by omega)) (by omega))
    have after := normal.le there (List.getElem?_eq_getElem (by omega)) (Nat.le_sub_one_of_lt long)
    linarith
  · cases limits.symm.trans own
    have above := (normal.normal before (List.mem_of_getElem? next)).1
    have below := (normal.normal b (List.mem_of_getElem? there)).2
    linarith

/-- Where the seam is clear, a band ends half way to any other anchor, or before, whichever way
round one goes. -/
theorem Normal.bisects (normal : clusters.Normal) (clear : clusters.SeamClear)
    (here : clusters.angles[i]? = some a) (limits : clusters.limits? i = some (left, right))
    (there : clusters.angles[j]? = some b) (different : i ≠ j) (turns : ℤ) :
    a < b + turns * 360 ∧ 2 * right ≤ a + (b + turns * 360) ∨
      b + turns * 360 < a ∧ a + (b + turns * 360) ≤ 2 * left := by
  have inRange := normal.normal a (List.mem_of_getElem? here)
  have inRange' := normal.normal b (List.mem_of_getElem? there)
  rcases different.lt_or_gt with later | earlier
  · have less := normal.lt here there later
    rcases le_or_gt 0 turns with forth | back
    · have on : (0 : ℝ) ≤ turns := by exact_mod_cast forth
      have bound := normal.right_le here limits there later
      exact .inl ⟨by linarith, by linarith⟩
    · have on : (turns : ℝ) ≤ -1 := by exact_mod_cast Int.le_sub_one_of_lt back
      have bound := normal.seam_le_left clear here limits there later
      exact .inr ⟨by linarith, by linarith⟩
  · have less := normal.lt there here earlier
    rcases le_or_gt turns 0 with back | forth
    · have on : (turns : ℝ) ≤ 0 := by exact_mod_cast back
      have bound := normal.le_left here limits there earlier
      exact .inr ⟨by linarith, by linarith⟩
    · have on : (1 : ℝ) ≤ turns := by exact_mod_cast forth
      have bound := normal.right_le_seam clear here limits there earlier
      exact .inl ⟨by linarith, by linarith⟩

end Limits

/-! ## Where the seam is clear -/

section Clear

variable {index : Nat} {angle : ℝ}

/-- The anchor of a band is the nearest one to every angle in the band. Where the seam is clear the
limits of the band lie between its anchor and every turn of another one, so the distances can be
compared on the line. -/
theorem Normal.nearest_of_inBand (normal : clusters.Normal) (clear : clusters.SeamClear)
    (inside : clusters.InBand index angle) : clusters.Nearest angle index := by
  obtain ⟨left, right, limits, turns, atLeast, below⟩ := inside
  have present : (clusters.angles[index]?).isSome := by
    unfold limits? at limits
    rw [Option.map_eq_some_iff] at limits
    obtain ⟨anchor, here, _⟩ := limits
    rw [here]
    rfl
  obtain ⟨anchor, here⟩ := Option.isSome_iff_exists.mp present
  refine ⟨anchor, here, fun other member => ?_⟩
  obtain ⟨position, there⟩ := List.getElem?_of_mem member
  by_cases same : index = position
  · subst same
    cases here.symm.trans there
    exact le_rfl
  · obtain ⟨round, ended⟩ := Angle.distance_eq_abs other angle
    refine (Angle.distance_le_abs anchor angle (-turns)).trans ?_
    rw [ended]
    have between := normal.bisects clear here limits there same (round + turns)
    push_cast at between ⊢
    rw [abs_le]
    -- both distances are now on the line: from the angle in the band to its anchor, and to a turn
    -- of the other anchor
    rcases between with ⟨ahead, before⟩ | ⟨behind, after⟩
    · have far := le_abs_self (other - angle + round * 360)
      constructor
      · linarith
      · linarith
    · have far := neg_le_abs (other - angle + round * 360)
      constructor
      · linarith
      · linarith

/-- No angle is in two bands. -/
theorem Normal.inBand_unique (normal : clusters.Normal) (clear : clusters.SeamClear) {other : Nat}
    (inside : clusters.InBand index angle) (inside' : clusters.InBand other angle) :
    index = other := by
  by_contra different
  obtain ⟨anchor, here, _⟩ := normal.nearest_of_inBand clear inside
  obtain ⟨anchor', there, _⟩ := normal.nearest_of_inBand clear inside'
  obtain ⟨left, right, limits, turns, atLeast, below⟩ := inside
  obtain ⟨left', right', limits', turns', atLeast', below'⟩ := inside'
  have one := normal.bisects clear here limits there different (turns - turns')
  have two := normal.bisects clear there limits' here (Ne.symm different) (turns' - turns)
  push_cast at one two
  rcases one with ⟨ahead, before⟩ | ⟨behind, after⟩
  · rcases two with ⟨ahead', _⟩ | ⟨_, after'⟩
    · linarith
    · linarith
  · rcases two with ⟨_, before'⟩ | ⟨behind', _⟩
    · linarith
    · linarith

end Clear

/-- A band holds the angles that it covers. -/
theorem inBand_of_covers {index : Nat} {angle : ℝ}
    (covered : clusters.covers (Angle.normalize angle) index = true) :
    clusters.InBand index angle := by
  unfold covers at covered
  split at covered
  · next anchor left right _ limits =>
    have offset : Angle.difference (Angle.normalize angle) anchor =
        Angle.normalize (angle - anchor) := Angle.normalize_normalize_sub angle anchor
    obtain ⟨_, _, turns, same⟩ := Angle.normalize_eq_iff.mp
      (rfl : Angle.normalize (angle - anchor) = _)
    rw [offset, Bool.and_eq_true, decide_eq_true_eq, decide_eq_true_eq] at covered
    obtain ⟨atLeast, below⟩ := covered
    refine ⟨left, right, limits, -turns, ?_, ?_⟩
    · push_cast
      linarith
    · push_cast
      linarith
  · cases covered

/-- The distance from an anchor does not change when the angle is normalized. -/
theorem distance_normalize (anchor angle : ℝ) :
    Angle.distance anchor (Angle.normalize angle) = Angle.distance anchor angle := by
  obtain ⟨_, _, turns, same⟩ := Angle.normalize_eq_iff.mp (rfl : Angle.normalize angle = _)
  have direction : Angle.normalize (anchor - Angle.normalize angle) =
      Angle.normalize (anchor - angle) :=
    Angle.normalize_eq_normalize_iff.mpr ⟨-turns, by push_cast; linarith⟩
  change |Angle.normalize (anchor - Angle.normalize angle)| = |Angle.normalize (anchor - angle)|
  rw [direction]

/-- An angle is given the nearest anchor, if it is in none of the bands. -/
theorem nearest_of_uncovered {angle : ℝ} {band : Nat}
    (least : (Scalar.firstMinOn? (fun (anchor, _) => Angle.distance anchor (Angle.normalize angle))
      clusters.angles.zipIdx).map Prod.snd = some band) : clusters.Nearest angle band := by
  obtain ⟨⟨anchor, index⟩, found, rfl⟩ := Option.map_eq_some_iff.mp least
  have here := List.mk_mem_zipIdx_iff_getElem?.mp (Scalar.mem_of_firstMinOn found)
  refine ⟨anchor, here, fun other present => ?_⟩
  obtain ⟨position, there⟩ := List.getElem?_of_mem present
  have shortest : Angle.distance anchor (Angle.normalize angle) ≤
      Angle.distance other (Angle.normalize angle) :=
    Scalar.firstMinOn_le found _ (List.mk_mem_zipIdx_iff_getElem?.mpr there)
  rwa [distance_normalize, distance_normalize] at shortest

/-- Where no band reaches over the seam, the band that is given for an angle has the nearest anchor:
the band covers the angle, or no band does and the program takes the nearest anchor itself. -/
theorem Normal.bandOf_nearest (normal : clusters.Normal) (clear : clusters.SeamClear) {angle : ℝ}
    {band : Nat} (given : clusters.bandOf? angle = some band) : clusters.Nearest angle band := by
  unfold bandOf? at given
  dsimp only at given
  split at given
  · next covered =>
    cases given
    exact normal.nearest_of_inBand clear (inBand_of_covers (List.find?_some covered))
  · exact nearest_of_uncovered given

/-! ## Where the seam is not clear -/

section Overlap

variable {first last : ℝ}

/-- Bands that meet across the seam both hold some angle: the greater of the two lower limits, one
of them moved on by a turn. -/
theorem Normal.overlap (normal : clusters.Normal) (positive : 0 < clusters.threshold)
    (head : clusters.angles.head? = some first) (tail : clusters.angles.getLast? = some last)
    (short : first + 360 - clusters.threshold < last + clusters.threshold) :
    ∃ angle, clusters.InBand 0 angle ∧ clusters.InBand (clusters.angles.length - 1) angle := by
  have here : clusters.angles[0]? = some first := List.head?_eq_getElem?.symm.trans head
  have there : clusters.angles[clusters.angles.length - 1]? = some last :=
    List.getLast?_eq_getElem?.symm.trans tail
  have inRange := normal.normal first (List.mem_of_getElem? here)
  have inRange' := normal.normal last (List.mem_of_getElem? there)
  obtain ⟨left, right, limits, outermost, _⟩ := limits_eq here
  obtain ⟨left', right', limits', _, outermost'⟩ := limits_eq there
  have around := normal.limits_around positive here limits
  have around' := normal.limits_around positive there limits'
  have reach : left = first - clusters.threshold :=
    outermost.elim And.right fun ⟨_, _, impossible, _⟩ => nomatch impossible
  have reach' : right' = last + clusters.threshold := by
    rcases outermost' with ⟨_, reach⟩ | ⟨_, next, _⟩
    · exact reach
    · have long := (List.getElem?_eq_some_iff.mp next).1
      omega
  refine ⟨max (left + 360) left', ⟨left, right, limits, -1, ?_, ?_⟩,
    ⟨left', right', limits', 0, ?_, ?_⟩⟩
  · have most := le_max_left (left + 360) left'
    push_cast
    linarith
  · have bound : max (left + 360) left' < right + 360 := max_lt (by linarith) (by linarith)
    push_cast
    linarith
  · simp
  · have bound : max (left + 360) left' < right' :=
      max_lt (by linarith) (around'.1.trans around'.2)
    simpa using bound

/-- Behind the seam, an angle can be given the first anchor although the last one is nearer. It lies
more than half of the way across from the first anchor and still within the threshold, and the first
band that covers an angle is the one it is given. -/
theorem Normal.not_nearest (normal : clusters.Normal) (positive : 0 < clusters.threshold)
    (head : clusters.angles.head? = some first) (tail : clusters.angles.getLast? = some last)
    (less : first < last) (short : first + 360 - clusters.threshold < last + clusters.threshold) :
    ∃ angle, clusters.bandOf? angle = some 0 ∧ ¬clusters.Nearest angle 0 := by
  have here : clusters.angles[0]? = some first := List.head?_eq_getElem?.symm.trans head
  have there := List.mem_of_getLast? tail
  have inRange := normal.normal first (List.mem_of_getElem? here)
  have inRange' := normal.normal last there
  obtain ⟨left, right, limits, outermost, _⟩ := limits_eq here
  have around := normal.limits_around positive here limits
  have reach : left = first - clusters.threshold :=
    outermost.elim And.right fun ⟨_, _, impossible, _⟩ => nomatch impossible
  -- the angle lies further from the first anchor than half the way across the seam, but within the
  -- threshold
  obtain ⟨far, further, within, near⟩ : ∃ far : ℝ, first + 360 - last < 2 * far ∧
      far ≤ clusters.threshold ∧ far < 180 := by
    refine ⟨min clusters.threshold ((first + 360 - last + 360) / 4), ?_, min_le_left _ _, ?_⟩
    · rcases min_choice clusters.threshold ((first + 360 - last + 360) / 4) with same | same
      · rw [same]
        linarith
      · rw [same]
        linarith
    · exact (min_le_right _ _).trans_lt (by linarith)
  have offset : Angle.difference (Angle.normalize (first - far)) first = -far := by
    have same := Angle.normalize_normalize_sub (first - far) first
    rw [sub_sub_cancel_left] at same
    refine same.trans (Angle.normalize_of_normal (by linarith) (by linarith))
  have covered : clusters.covers (Angle.normalize (first - far)) 0 = true := by
    unfold covers
    rw [here, limits]
    dsimp only
    rw [offset, Bool.and_eq_true, decide_eq_true_eq, decide_eq_true_eq]
    exact ⟨by linarith, by linarith⟩
  refine ⟨first - far, ?_, ?_⟩
  · have some : clusters.size = (clusters.size - 1) + 1 := by
      have long := (List.getElem?_eq_some_iff.mp here).1
      unfold angles at long
      rw [List.length_map] at long
      unfold size
      omega
    unfold bandOf?
    dsimp only
    rw [some, List.range_succ_eq_map, List.find?_cons_of_pos covered]
  · rintro ⟨anchor, own, nearest⟩
    cases here.symm.trans own
    have shortest := nearest last there
    have across := Angle.distance_le_abs last (first - far) (-1)
    have exact : Angle.distance first (first - far) = far := by
      have turned : Angle.normalize (first - (first - far)) = far := by
        rw [sub_sub_cancel, Angle.normalize_of_normal (by linarith) (by linarith)]
      change |Angle.normalize (first - (first - far))| = far
      rw [turned]
      exact abs_of_pos (by linarith)
    have shorter : |last - (first - far) + ((-1 : ℤ) : ℝ) * 360| < far := by
      push_cast
      exact abs_lt.mpr ⟨by linarith, by linarith⟩
    linarith

end Overlap

/-- **Bands and the nearest anchor.** Every angle is given one of the clusters of a histogram. It is
always one with the nearest anchor, and the bands do not overlap, if and only if the seam is clear.
-/
theorem bandOf_nearest_iff {histogram : Histogram ℝ} (inRange : histogram.InRange) {threshold : ℝ}
    (positive : 0 < threshold) (visible : (ofHistogram histogram threshold).anchors ≠ []) :
    let clusters := ofHistogram histogram threshold
    (∀ angle, ∃ band, clusters.bandOf? angle = some band) ∧
      ((∀ angle band, clusters.bandOf? angle = some band → clusters.Nearest angle band) ↔
        clusters.SeamClear) ∧
      ((∀ angle band other, clusters.InBand band angle → clusters.InBand other angle →
        band = other) ↔ clusters.SeamClear) := by
  intro clusters
  have normal : clusters.Normal := ofHistogram_normal inRange threshold
  refine ⟨fun angle => ?_, ⟨fun always => ?_, fun clear angle band given => ?_⟩,
    ⟨fun apart => ?_, fun clear angle band other inside inside' => ?_⟩⟩
  · obtain ⟨band, _, given⟩ := bandOf_lt visible angle
    exact ⟨band, given⟩
  · intro first last head tail less
    by_contra short
    obtain ⟨angle, given, farther⟩ :=
      normal.not_nearest positive head tail less (not_le.mp short)
    exact farther (always angle 0 given)
  · exact normal.bandOf_nearest clear given
  · intro first last head tail less
    by_contra short
    obtain ⟨angle, inside, inside'⟩ := normal.overlap positive head tail (not_le.mp short)
    have one := apart angle 0 _ inside inside'
    rw [List.getLast?_eq_getElem?, ← one, ← List.head?_eq_getElem?, head] at tail
    cases tail
    exact lt_irrefl _ less
  · exact normal.inBand_unique clear inside inside'

/-- Two orientations of equal weight on either side of the seam, four degrees apart, do not merge
within three degrees. -/
theorem angles_across_seam :
    (ofHistogram (.ofEntries [⟨-178, 10⟩, ⟨178, 10⟩]) 3 : Clusters ℝ).angles = [-178, 178] := by
  have apart : ¬Angle.distance (-178 : ℝ) 178 < 3 := by
    have turned : Angle.normalize (-178 - 178 : ℝ) = 4 :=
      Angle.normalize_eq_iff.mpr ⟨by norm_num, by norm_num, -1, by norm_num⟩
    change ¬|Angle.normalize (-178 - 178 : ℝ)| < 3
    rw [turned]
    norm_num
  have heaviest : Scalar.sortOnDescending WeightedAngle.weight
      [⟨-178, 10⟩, (⟨178, 10⟩ : WeightedAngle ℝ)] = [⟨-178, 10⟩, ⟨178, 10⟩] :=
    List.mergeSort_of_pairwise (by simp [Scalar.totalLE])
  have merged : List.foldl (merge 3) [] [⟨-178, 10⟩, (⟨178, 10⟩ : WeightedAngle ℝ)] =
      [⟨-178, 10⟩, ⟨178, 10⟩] := by
    have none : nearestWithin? 3 (178 : ℝ) [⟨-178, 10⟩] = none := by
      unfold nearestWithin?
      simp [apart, Scalar.firstMinOn?]
    change merge 3 [⟨-178, 10⟩] ⟨178, 10⟩ = _
    unfold merge
    rw [none]
    rfl
  have ascending : Scalar.sortOn WeightedAngle.angle
      [⟨-178, 10⟩, (⟨178, 10⟩ : WeightedAngle ℝ)] = [⟨-178, 10⟩, ⟨178, 10⟩] :=
    List.mergeSort_of_pairwise (by norm_num [Scalar.totalLE])
  unfold angles ofHistogram
  rw [Histogram.entries_across_seam, heaviest, merged, ascending]
  rfl

/-- Some angle behind the seam is given the anchor that is farther away. -/
theorem bandOf_nearest_iff_across_seam :
    let clusters : Clusters ℝ := ofHistogram (.ofEntries [⟨-178, 10⟩, ⟨178, 10⟩]) 3
    ¬clusters.SeamClear ∧
      ∃ angle band, clusters.bandOf? angle = some band ∧ ¬clusters.Nearest angle band := by
  intro clusters
  have visible : clusters.anchors ≠ [] := by
    intro none
    have anchored : clusters.angles = [-178, 178] := angles_across_seam
    unfold angles at anchored
    rw [none] at anchored
    cases anchored
  have overlapping : ¬clusters.SeamClear := by
    intro clear
    have anchored : clusters.angles = [-178, 178] := angles_across_seam
    have gap : (178 : ℝ) + 3 ≤ -178 + 360 - 3 := by
      apply clear
      · rw [anchored]
        rfl
      · rw [anchored]
        rfl
      · norm_num
    norm_num at gap
  obtain ⟨_, nearest, _⟩ := bandOf_nearest_iff (Histogram.ofEntries_inRange _) (by norm_num) visible
  refine ⟨overlapping, ?_⟩
  by_contra never
  exact overlapping (nearest.mp fun angle band given =>
    by_contra fun farther => never ⟨angle, band, given, farther⟩)

end PlacedText.Clusters
