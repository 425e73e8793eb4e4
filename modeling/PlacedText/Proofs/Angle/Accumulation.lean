import Mathlib
import PlacedText.Proofs.Angle.Turning

/-! # Weights that are added up

A histogram remembers how much of what was added to it fell into each bucket, and nothing else: the
weight of a bucket is a sum over what was added (`Histogram.weightOn_ofEntries`), and the weights of
the buckets make the histogram (`Histogram.eq_of_weightOn`). So it does not show in which order
anything was added (`Histogram.ofAdditions_sums`).
-/

namespace PlacedText

namespace Histogram

variable {histogram other : Histogram ℝ} {entries : List (WeightedAngle ℝ)} {key : ℤ}

/-! ## Buckets -/

/-- The bucket of an angle is the nearest tenth of a degree, up to full turns: the keys from -1799
to 1800 represent the tenths modulo 3600, so the turns and the key are determined by the rounded
tenths. -/
theorem bucketKey_eq_iff {degrees : ℝ} : bucketKey degrees = key ↔
    -1800 < key ∧ key ≤ 1800 ∧
      ∃ turns : ℤ, Scalar.round (degrees * 10) = (key : ℝ) + turns * 3600 := by
  have settled {key turns : ℤ} (above : -1800 < key) (below : key ≤ 1800)
      (same : Scalar.round (degrees * 10) = (key : ℝ) + turns * 3600) :
      bucketKey degrees = key := by
    have above' : (-1800 : ℝ) < key := by exact_mod_cast above
    have below' : (key : ℝ) ≤ 1800 := by exact_mod_cast below
    apply bucketKey_of_roundToTenth above below
    unfold Angle.roundToTenth
    rw [show degrees * 10.0 = degrees * 10 by norm_num, same, Angle.normalize_eq_iff]
    refine ⟨by linarith, by linarith, turns, ?_⟩
    norm_num
    ring
  constructor
  · rintro rfl
    obtain ⟨tenths, rounded, -⟩ := ExactScalar.exists_round (degrees * 10)
    obtain ⟨key', above, below, normal⟩ := Angle.exists_tenths tenths 0
    obtain ⟨-, -, turns, turned⟩ := Angle.normalize_eq_iff.mp normal
    have same : Scalar.round (degrees * 10) = (key' : ℝ) + turns * 3600 := by
      rw [rounded]
      push_cast at turned
      linarith
    rw [settled above below same]
    exact ⟨above, below, turns, same⟩
  · rintro ⟨above, below, turns, same⟩
    exact settled above below same

/-- The weight in a bucket. -/
def weightOn (histogram : Histogram ℝ) (key : ℤ) : ℝ := (histogram.buckets.lookup key).getD 0

theorem weightAt_eq (histogram : Histogram ℝ) (degrees : ℝ) :
    histogram.weightAt degrees = histogram.weightOn (bucketKey degrees) := by
  have zero : (0.0 : ℝ) = 0 := by norm_num
  unfold weightAt weightOn
  rw [zero]

/-- Where the keys ascend, a bucket is found by its key. -/
theorem lookup_of_mem {weight : ℝ} {buckets : List (ℤ × ℝ)}
    (ascending : (buckets.map Prod.fst).Pairwise (· < ·)) (member : (key, weight) ∈ buckets) :
    buckets.lookup key = some weight := by
  obtain ⟨before, after, rfl⟩ := List.append_of_mem member
  refine List.lookup_eq_some_iff.mpr ⟨before, after, rfl, fun bucket earlier => ?_⟩
  rw [List.map_append, List.pairwise_append] at ascending
  have less := ascending.2.2 bucket.1 (List.mem_map_of_mem earlier) key (.head _)
  exact bne_iff_ne.mpr less.ne'

/-- A bucket with a weight is in the list, and no other one is. -/
theorem mem_buckets_iff (weighed : histogram.Weighed) {weight : ℝ} :
    (key, weight) ∈ histogram.buckets ↔ 0 < weight ∧ histogram.weightOn key = weight := by
  unfold weightOn
  constructor
  · intro member
    rw [lookup_of_mem histogram.ascending member]
    exact ⟨weighed _ (List.mem_map_of_mem member), rfl⟩
  · rintro ⟨positive, found⟩
    cases looked : histogram.buckets.lookup key with
    | none =>
      rw [looked, Option.getD_none] at found
      exact absurd found positive.ne
    | some present =>
      rw [looked, Option.getD_some] at found
      obtain ⟨before, after, split, -⟩ := List.lookup_eq_some_iff.mp looked
      rw [split, ← found]
      exact List.mem_append_right _ (.head _)

/-- The weights of its buckets are all that there is to a histogram. -/
theorem eq_of_weightOn (weighed : histogram.Weighed) (weighed' : other.Weighed)
    (same : ∀ key, histogram.weightOn key = other.weightOn key) : histogram = other := by
  have irreflexive : Std.Irrefl fun first second : ℤ × ℝ => first.1 < second.1 :=
    ⟨fun bucket => lt_irrefl bucket.1⟩
  have antisymmetric : Std.Antisymm fun first second : ℤ × ℝ => first.1 < second.1 :=
    ⟨fun first second before behind => (lt_asymm before behind).elim⟩
  have buckets : histogram.buckets = other.buckets := by
    refine (List.pairwise_map.mp histogram.ascending).eq_of_mem_iff
      (List.pairwise_map.mp other.ascending) fun ⟨key, weight⟩ => ?_
    rw [mem_buckets_iff weighed, mem_buckets_iff weighed', same]
  obtain ⟨_, _⟩ := histogram
  obtain ⟨_, _⟩ := other
  cases buckets
  rfl

/-! ## One addition -/

/-- An addition at a key adds to the weight there and leaves the others. By induction on the
buckets, which the insertion walks up to the first key that is not smaller. -/
theorem getD_lookup_addAt {at' : ℤ} {weight : ℝ} {buckets : List (ℤ × ℝ)}
    (ascending : (buckets.map Prod.fst).Pairwise (· < ·)) :
    ((addAt at' weight buckets).lookup key).getD 0 =
      (buckets.lookup key).getD 0 + if at' = key then weight else 0 := by
  have added : (0.0 : ℝ) + weight = weight := by norm_num
  induction buckets with
  | nil =>
    by_cases here : at' = key
    · simp [addAt, here, added]
    · simp [addAt, here, List.lookup_cons, beq_false_of_ne (Ne.symm here)]
  | cons bucket rest ih =>
    obtain ⟨present, before⟩ := bucket
    obtain ⟨later, ascending'⟩ := List.pairwise_cons.mp ascending
    unfold addAt
    by_cases less : at' < present
    · rw [if_pos less]
      by_cases here : at' = key
      · -- no bucket with this key is behind a greater one
        have absent : ((present, before) :: rest).lookup key = none := by
          refine List.lookup_eq_none_iff.mpr fun bucket member => bne_iff_ne.mpr ?_
          rcases List.mem_cons.mp member with rfl | behind
          · exact (here ▸ less).ne
          · exact (here ▸ less.trans (later _ (List.mem_map_of_mem behind))).ne
        rw [absent]
        simp [here, added]
      · simp [here, List.lookup_cons, beq_false_of_ne (Ne.symm here)]
    · rw [if_neg less]
      by_cases same : at' = present
      · rw [if_pos same]
        by_cases here : at' = key
        · simp [← here, ← same]
        · simp [here, ← same, List.lookup_cons, beq_false_of_ne (Ne.symm here)]
      · rw [if_neg same]
        by_cases here : key = present
        · have apart : at' ≠ key := here ▸ same
          simp [← here, apart]
        · simp only [List.lookup_cons, beq_false_of_ne here]
          exact ih ascending'

/-- An addition raises the total by its weight, whether it opens a bucket or meets one. -/
theorem sum_addAt (at' : ℤ) (weight : ℝ) (buckets : List (ℤ × ℝ)) :
    ((addAt at' weight buckets).map Prod.snd).sum = (buckets.map Prod.snd).sum + weight := by
  have added : (0.0 : ℝ) + weight = weight := by norm_num
  induction buckets with
  | nil => simp [addAt, added]
  | cons bucket rest ih =>
    obtain ⟨present, before⟩ := bucket
    unfold addAt
    split
    · rw [List.map_cons, List.sum_cons, added, add_comm]
    · split
      · simp only [List.map_cons, List.sum_cons]
        ring
      · simp only [List.map_cons, List.sum_cons, ih]
        ring

theorem buckets_add {weight : ℝ} (positive : 0 < weight) (degrees : ℝ) :
    (histogram.add degrees weight).buckets =
      addAt (bucketKey degrees) weight histogram.buckets := by
  have counts : ¬((decide (weight ≤ 0.0) || !Scalar.isFinite degrees) = true) := by
    norm_num [Scalar.isFinite, positive]
  unfold add
  rw [if_neg counts]

theorem add_of_not_pos {weight : ℝ} (none : ¬0 < weight) (degrees : ℝ) :
    histogram.add degrees weight = histogram := by
  have ignored : weight ≤ 0.0 := by
    norm_num
    exact not_lt.mp none
  simp [add, ignored]

/-! ## Many additions -/

/-- The weight in a bucket is that of the entries with an angle in it. -/
theorem weightOn_ofEntries (positive : ∀ entry ∈ entries, 0 < entry.weight) (key : ℤ) :
    (ofEntries entries).weightOn key =
      ((entries.filter fun entry => bucketKey entry.angle = key).map WeightedAngle.weight).sum := by
  have onward (histogram : Histogram ℝ) :
      (entries.foldl (fun histogram entry => histogram.add entry.angle entry.weight)
        histogram).weightOn key = histogram.weightOn key +
          ((entries.filter fun entry => bucketKey entry.angle = key).map
            WeightedAngle.weight).sum := by
    induction entries generalizing histogram with
    | nil => simp
    | cons entry rest ih =>
      obtain ⟨here, later⟩ := List.forall_mem_cons.mp positive
      have added : (histogram.add entry.angle entry.weight).weightOn key =
          histogram.weightOn key + if bucketKey entry.angle = key then entry.weight else 0 := by
        unfold weightOn
        rw [buckets_add here, getD_lookup_addAt histogram.ascending]
      rw [List.foldl_cons, ih later, added]
      by_cases own : bucketKey entry.angle = key
      · simp [own, add_assoc]
      · simp [own]
  have start : (empty : Histogram ℝ).weightOn key = 0 := rfl
  exact (onward empty).trans (by rw [start, zero_add])

/-- A histogram that is built of positive entries weighs as much as they do. -/
theorem totalWeight_ofEntries (positive : ∀ entry ∈ entries, 0 < entry.weight) :
    (ofEntries entries).totalWeight = (entries.map WeightedAngle.weight).sum := by
  have onward (histogram : Histogram ℝ) :
      ((entries.foldl (fun histogram entry => histogram.add entry.angle entry.weight)
        histogram).buckets.map Prod.snd).sum =
          (histogram.buckets.map Prod.snd).sum + (entries.map WeightedAngle.weight).sum := by
    induction entries generalizing histogram with
    | nil => simp
    | cons entry rest ih =>
      obtain ⟨here, later⟩ := List.forall_mem_cons.mp positive
      rw [List.foldl_cons, ih later, buckets_add here, sum_addAt, List.map_cons, List.sum_cons,
        add_assoc]
  unfold totalWeight
  rw [Scalar.sum_eq]
  exact (onward empty).trans (zero_add _)

/-- Entries in another order come to the same histogram. -/
theorem ofEntries_eq_of_perm {entries' : List (WeightedAngle ℝ)}
    (positive : ∀ entry ∈ entries, 0 < entry.weight) (same : entries.Perm entries') :
    ofEntries entries = ofEntries entries' := by
  have positive' : ∀ entry ∈ entries', 0 < entry.weight := fun entry member =>
    positive entry (same.mem_iff.mpr member)
  refine eq_of_weightOn (ofEntries_weighed _) (ofEntries_weighed _) fun key => ?_
  rw [weightOn_ofEntries positive, weightOn_ofEntries positive']
  exact ((same.filter _).map _).sum_eq

/-! ## Additions of weights and of glyphs -/

/-- What is added to a histogram: weight at an angle, or a glyph. -/
inductive Addition (α : Type) where
  | ofWeight (degrees weight : α)
  | ofGlyph (t : Transform α) (text : String)

namespace Addition

/-- Adds to a histogram. -/
def addTo {α : Type} [Scalar α] (histogram : Histogram α) : Addition α → Histogram α
  | ofWeight degrees weight => histogram.add degrees weight
  | ofGlyph t text => histogram.addGlyph t text

/-- The weight that counts, with its angle: one that is positive, or that of a glyph whose text
tells how it is oriented. -/
noncomputable def counted? : Addition ℝ → Option (WeightedAngle ℝ)
  | ofWeight degrees weight => if 0 < weight then some ⟨degrees, weight⟩ else none
  | ofGlyph t text => if isSignal text then some ⟨Angle.ofTransform t, weightOf text⟩ else none

end Addition

/-- The histogram that additions come to. -/
def ofAdditions {α : Type} [Scalar α] (additions : List (Addition α)) : Histogram α :=
  additions.foldl Addition.addTo empty

/-- Text that tells how it is oriented has a length. -/
theorem weightOf_pos {text : String} (signal : isSignal text) : (0 : ℝ) < weightOf text := by
  have counted (characters : List Char) (length : Nat) : length + characters.length ≤
      characters.foldl (fun length c => length + Text.units16 c) length := by
    induction characters generalizing length with
    | nil => exact le_rfl
    | cons c characters ih =>
      have one : 1 ≤ Text.units16 c := by
        unfold Text.units16
        split
        · exact le_rfl
        · exact Nat.le_succ 1
      have rest := ih (length + Text.units16 c)
      rw [List.foldl_cons, List.length_cons]
      omega
  obtain ⟨c, member, -⟩ := List.any_eq_true.mp signal
  have visible := List.length_pos_of_mem member
  have units : text.toList.length ≤ Text.length16 text :=
    (Nat.zero_add _).symm.trans_le (counted text.toList 0)
  change (0 : ℝ) < ((Text.length16 text : ℤ) : ℝ)
  exact_mod_cast visible.trans_le units

/-- The additions that count have positive weights. -/
theorem counted_pos (additions : List (Addition ℝ)) :
    ∀ entry ∈ additions.filterMap Addition.counted?, 0 < entry.weight := by
  intro entry member
  obtain ⟨addition, -, counts⟩ := List.mem_filterMap.mp member
  unfold Addition.counted? at counts
  cases addition with
  | ofWeight degrees weight =>
    obtain ⟨positive, same⟩ := Option.ite_none_right_eq_some.mp counts
    cases same
    exact positive
  | ofGlyph t text =>
    obtain ⟨signal, same⟩ := Option.ite_none_right_eq_some.mp counts
    cases same
    exact weightOf_pos signal

/-- What does not count is not added. -/
theorem ofAdditions_eq (additions : List (Addition ℝ)) :
    ofAdditions additions = ofEntries (additions.filterMap Addition.counted?) := by
  unfold ofAdditions ofEntries
  rw [List.foldl_filterMap]
  congr 1
  funext histogram addition
  cases addition with
  | ofWeight degrees weight =>
    by_cases positive : 0 < weight
    · simp [Addition.addTo, Addition.counted?, positive]
    · simp [Addition.addTo, Addition.counted?, positive, add_of_not_pos]
  | ofGlyph t text =>
    by_cases signal : isSignal text
    · simp [Addition.addTo, Addition.counted?, addGlyph, signal]
    · simp [Addition.addTo, Addition.counted?, addGlyph, signal]

/-- There is a mode as soon as anything counts. -/
theorem mode?_ofEntries_eq_none_iff (positive : ∀ entry ∈ entries, 0 < entry.weight) :
    (ofEntries entries).mode? = none ↔ entries = [] := by
  constructor
  · intro noMode
    by_contra visible
    have total : 0 < (ofEntries entries).totalWeight := by
      rw [totalWeight_ofEntries positive]
      exact List.sum_pos _ (List.forall_mem_map.mpr positive) (by simpa using visible)
    have filled : (ofEntries entries).isEmpty = false := by
      rw [isEmpty_eq, List.isEmpty_eq_false_iff]
      intro blank
      rw [totalWeight_eq, blank] at total
      exact lt_irrefl _ total
    obtain ⟨mode, found, -⟩ := exists_mode filled
    cases noMode.symm.trans found
  · rintro rfl
    rfl

/-- **A histogram sums up what was added to it, in whatever order.** Its buckets are those of
different normal directions and have positive weights. Together they weigh as much as all that
counted, and the bucket of an angle as much as what counted at the angles with that bucket. The
mode is the heaviest bucket, at the lowest angle on a tie, and there is one as soon as anything
counted. The same additions in another order come to the same histogram. -/
theorem ofAdditions_sums (additions : List (Addition ℝ)) :
    let histogram := ofAdditions additions
    let counted := additions.filterMap Addition.counted?
    (histogram.buckets.map Prod.fst).Nodup ∧
      (∀ key ∈ histogram.buckets.map Prod.fst, -1800 < key ∧ key ≤ 1800) ∧
      (∀ bucket ∈ histogram.buckets, 0 < bucket.2) ∧
      histogram.totalWeight = (counted.map WeightedAngle.weight).sum ∧
      (∀ degrees, histogram.weightAt degrees = ((counted.filter fun entry =>
        bucketKey entry.angle = bucketKey degrees).map WeightedAngle.weight).sum) ∧
      (∀ mode, histogram.mode? = some mode ↔ histogram.Heaviest mode) ∧
      (histogram.mode? = none ↔ counted = []) ∧
      ∀ reordered, additions.Perm reordered → ofAdditions reordered = histogram := by
  intro histogram counted
  have positive : ∀ entry ∈ counted, 0 < entry.weight := counted_pos additions
  have same : histogram = ofEntries counted := ofAdditions_eq additions
  have weighed : histogram.Weighed := same ▸ ofEntries_weighed counted
  refine ⟨histogram.ascending.imp LT.lt.ne, ?_, ?_, ?_, ?_, ?_, ?_, ?_⟩
  · exact same ▸ ofEntries_inRange counted
  · exact fun bucket member => weighed _ (List.mem_map_of_mem member)
  · exact same ▸ totalWeight_ofEntries positive
  · intro degrees
    rw [weightAt_eq, same, weightOn_ofEntries positive]
  · exact fun mode => mode?_eq_some_iff
  · exact same ▸ mode?_ofEntries_eq_none_iff positive
  · intro reordered perm
    rw [ofAdditions_eq, same]
    exact (ofEntries_eq_of_perm positive (perm.filterMap _)).symm

/-- Weights on either side of the seam are in one bucket, whichever comes first. -/
theorem ofAdditions_sums_at_seam :
    let additions : List (Addition ℝ) := [.ofWeight (-180) 2, .ofWeight 10 (-1), .ofWeight 180 3]
    let reordered : List (Addition ℝ) := [.ofWeight 180 3, .ofWeight (-180) 2, .ofWeight 10 (-1)]
    additions.Perm reordered ∧ ofAdditions reordered = ofAdditions additions ∧
      (1800, 5) ∈ (ofAdditions additions).buckets ∧ (0 : ℝ) < 5 ∧
      (ofAdditions additions).weightAt 540 = 5 ∧ (ofAdditions additions).totalWeight = 5 := by
  intro additions reordered
  have counted : additions.filterMap Addition.counted? = [⟨-180, 2⟩, ⟨180, 3⟩] := by
    norm_num [additions, List.filterMap_cons, Addition.counted?]
  have seam (turns : ℤ) : bucketKey (180 + turns * 360 : ℝ) = 1800 := by
    refine bucketKey_eq_iff.mpr ⟨by decide, by decide, turns, ?_⟩
    have whole : (180 + turns * 360 : ℝ) * 10 = ((1800 + turns * 3600 : ℤ) : ℝ) := by
      push_cast
      ring
    rw [whole, ExactScalar.round_intCast]
    push_cast
    rfl
  have first : bucketKey (-180 : ℝ) = 1800 := by
    rw [← seam (-1)]
    norm_num
  have second : bucketKey (180 : ℝ) = 1800 := by
    rw [← seam 0]
    norm_num
  have third : bucketKey (540 : ℝ) = 1800 := by
    rw [← seam 1]
    norm_num
  have perm : additions.Perm reordered := by
    refine .trans (.cons _ (.swap _ _ _)) (.swap _ _ _)
  obtain ⟨-, -, weights, total, parts, -, -, orders⟩ := ofAdditions_sums additions
  rw [counted] at total
  have part : (ofAdditions additions).weightAt 540 = 5 := by
    rw [parts, counted, third]
    norm_num [first, second]
  have present : (1800, 5) ∈ (ofAdditions additions).buckets := by
    have weighed : (ofAdditions additions).Weighed := ofAdditions_eq additions ▸ ofEntries_weighed _
    rw [mem_buckets_iff weighed, ← third, ← weightAt_eq, part]
    norm_num
  exact ⟨perm, orders reordered perm, present, weights _ present, part, total.trans (by norm_num)⟩

end Histogram

end PlacedText
