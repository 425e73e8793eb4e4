import Mathlib
import PlacedText.Page.Orientation
import PlacedText.Proofs.Angle.Circle

/-! # The buckets of a histogram

What holds without any weight and goes on to hold when weight is added at an angle is true of every
histogram that is made (`Histogram.ofEntries_induction`, `PageOrientation.histogramOf_induction`):
its buckets are those of normal directions, to the tenth of a degree (`Histogram.InRange`), and each
of them has weight (`Histogram.Weighed`).
-/

namespace PlacedText

/-- What is true of a histogram to which weights have been added. -/
theorem Histogram.ofEntries_induction {holds : Histogram ℝ → Prop} (start : holds .empty)
    (step : ∀ histogram, holds histogram → ∀ degrees weight, holds (histogram.add degrees weight))
    (entries : List (WeightedAngle ℝ)) : holds (.ofEntries entries) := by
  unfold ofEntries
  generalize empty = histogram at start ⊢
  induction entries generalizing histogram with
  | nil => exact start
  | cons entry entries ih => exact ih _ (step histogram start entry.angle entry.weight)

/-- What is true of the histogram of a page. -/
theorem PageOrientation.histogramOf_induction {holds : Histogram ℝ → Prop} (start : holds .empty)
    (step : ∀ histogram, holds histogram → ∀ degrees weight, holds (histogram.add degrees weight))
    (glyphs : List (GlyphEvent ℝ)) : holds (histogramOf glyphs) := by
  have glyphStep (histogram : Histogram ℝ) (held : holds histogram) (t : Transform ℝ)
      (text : String) : holds (histogram.addGlyph t text) := by
    unfold Histogram.addGlyph
    split
    · exact step histogram held _ _
    · exact held
  unfold histogramOf
  generalize Histogram.empty = histogram at start ⊢
  induction glyphs generalizing histogram with
  | nil => exact start
  | cons glyph glyphs ih =>
    apply ih
    dsimp only
    cases glyph.unicode? with
    | some text => exact glyphStep histogram start glyph.trm text
    | none => exact start

namespace Histogram

variable {histogram : Histogram ℝ}

/-- The buckets are listed by their angles. -/
theorem entries_ascending (histogram : Histogram ℝ) :
    histogram.entries.Pairwise fun entry later => entry.angle < later.angle := by
  unfold entries
  refine List.pairwise_map.mpr ((List.pairwise_map.mp histogram.ascending).imp ?_)
  intro bucket later less
  have less' : (bucket.1 : ℝ) < later.1 := by exact_mod_cast less
  change (bucket.1 : ℝ) / 10.0 < (later.1 : ℝ) / 10.0
  linarith

theorem totalWeight_eq (histogram : Histogram ℝ) :
    histogram.totalWeight = (histogram.entries.map WeightedAngle.weight).sum := by
  unfold totalWeight entries
  rw [Scalar.sum_eq, List.map_map]
  rfl

/-! ## Directions -/

/-- Whether the buckets are those of normal directions, in tenths of a degree. -/
def InRange (histogram : Histogram ℝ) : Prop :=
  ∀ key ∈ histogram.buckets.map Prod.fst, -1800 < key ∧ key ≤ 1800

/-- The key of an angle is a tenth of its normal form. As -180 is no normal form, -1800 is no key.
-/
theorem bucketKey_inRange (degrees : ℝ) : -1800 < bucketKey degrees ∧ bucketKey degrees ≤ 1800 := by
  have clamped (number : ℝ) : -1800 ≤ Scalar.clampToInt (-1800) 1800 number ∧
      Scalar.clampToInt (-1800) 1800 number ≤ 1800 := by
    change _ ≤ max (-1800) (min 1800 (ExactScalar.truncate number)) ∧ max _ (min _ _) ≤ _
    omega
  have between := clamped (Scalar.round (Angle.roundToTenth degrees * 10.0))
  unfold bucketKey
  dsimp only
  split
  · omega
  · omega

/-- An angle has the bucket of the normal tenth of a degree that it is nearest to. -/
theorem bucketKey_of_roundToTenth {degrees : ℝ} {key : ℤ} (above : -1800 < key) (below : key ≤ 1800)
    (nearest : Angle.roundToTenth degrees = (key : ℝ) / 10) : bucketKey degrees = key := by
  have counted : Scalar.round (Angle.roundToTenth degrees * 10.0) = key := by
    rw [nearest, show (key : ℝ) / 10 * 10.0 = key by norm_num, ExactScalar.round_intCast]
  have kept : Scalar.clampToInt (-1800) 1800 (key : ℝ) = key := by
    change max (-1800) (min 1800 (ExactScalar.truncate (key : ℝ))) = key
    rw [ExactScalar.truncate_intCast]
    omega
  unfold bucketKey
  dsimp only
  rw [counted, kept, if_neg above.ne']

/-- An angle in whole tenths of a degree has the bucket of these. -/
theorem bucketKey_tenths {key : ℤ} (above : -1800 < key) (below : key ≤ 1800) :
    bucketKey ((key : ℝ) / 10) = key := by
  have above' : (-1800 : ℝ) < key := by exact_mod_cast above
  have below' : (key : ℝ) ≤ 1800 := by exact_mod_cast below
  have whole : Scalar.round ((key : ℝ) / 10 * 10.0) / 10.0 = (key : ℝ) / 10 := by
    rw [show (key : ℝ) / 10 * 10.0 = key by norm_num, ExactScalar.round_intCast]
    norm_num
  apply bucketKey_of_roundToTenth above below
  unfold Angle.roundToTenth
  rw [whole]
  exact Angle.normalize_of_normal (by linarith) (by linarith)

theorem empty_inRange : (empty : Histogram ℝ).InRange := by
  intro key member
  cases member

/-- Every addition goes to a key in range, whether it opens a bucket or not. -/
theorem InRange.add (inRange : histogram.InRange) (degrees weight : ℝ) :
    (histogram.add degrees weight).InRange := by
  unfold Histogram.add
  split
  · exact inRange
  · intro key member
    rcases mem_keys_addAt member with rfl | before
    · exact bucketKey_inRange degrees
    · exact inRange key before

theorem ofEntries_inRange (entries : List (WeightedAngle ℝ)) : (ofEntries entries).InRange :=
  ofEntries_induction empty_inRange (fun _ inRange => inRange.add) entries

/-- The angles of the buckets are normal. -/
theorem InRange.normal (inRange : histogram.InRange) :
    ∀ entry ∈ histogram.entries, -180 < entry.angle ∧ entry.angle ≤ 180 := by
  intro entry member
  obtain ⟨bucket, present, rfl⟩ := List.mem_map.mp member
  obtain ⟨above, below⟩ := inRange bucket.1 (List.mem_map_of_mem present)
  have above' : (-1800 : ℝ) < bucket.1 := by exact_mod_cast above
  have below' : (bucket.1 : ℝ) ≤ 1800 := by exact_mod_cast below
  change -180 < (bucket.1 : ℝ) / 10.0 ∧ (bucket.1 : ℝ) / 10.0 ≤ 180
  constructor
  · linarith
  · linarith

/-- Two orientations on either side of the seam, four degrees apart. -/
theorem entries_across_seam : (ofEntries [⟨-178, 10⟩, ⟨178, 10⟩] : Histogram ℝ).entries =
    [⟨-178, 10⟩, ⟨178, 10⟩] := by
  have first : bucketKey (-178 : ℝ) = -1780 := by
    rw [← bucketKey_tenths (by decide : -1800 < (-1780 : ℤ)) (by decide)]
    norm_num
  have second : bucketKey (178 : ℝ) = 1780 := by
    rw [← bucketKey_tenths (by decide : -1800 < (1780 : ℤ)) (by decide)]
    norm_num
  have counts : ¬((10 : ℝ) ≤ 0.0) := by norm_num
  have buckets : (ofEntries [⟨-178, 10⟩, ⟨178, 10⟩] : Histogram ℝ).buckets =
      [(-1780, 0.0 + 10), (1780, 0.0 + 10)] := by
    change ((empty.add (-178) 10).add 178 10).buckets = _
    simp [Histogram.add, counts, Scalar.isFinite, first, second, empty, addAt]
  unfold entries
  rw [buckets]
  norm_num [Scalar.ofInt]

/-! ## Weights -/

/-- Whether every bucket has a weight, as those do that weights have been added to. -/
def Weighed (histogram : Histogram ℝ) : Prop :=
  ∀ entry ∈ histogram.entries, 0 < entry.weight

/-- A positive weight that is added at a key keeps all weights positive. -/
theorem addAt_pos {key : ℤ} {weight : ℝ} {buckets : List (ℤ × ℝ)} (positive : 0 < weight)
    (weighed : ∀ bucket ∈ buckets, 0 < bucket.2) : ∀ bucket ∈ addAt key weight buckets,
      0 < bucket.2 := by
  have added : (0.0 : ℝ) + weight > 0 := by
    norm_num
    exact positive
  induction buckets with
  | nil => simpa [addAt] using added
  | cons bucket rest ih =>
    obtain ⟨here, later⟩ := List.forall_mem_cons.mp weighed
    unfold addAt
    split
    · exact List.forall_mem_cons.mpr ⟨added, weighed⟩
    · split
      · exact List.forall_mem_cons.mpr ⟨add_pos here positive, later⟩
      · exact List.forall_mem_cons.mpr ⟨here, ih later⟩

theorem empty_weighed : (empty : Histogram ℝ).Weighed := by
  intro entry member
  cases member

/-- An addition without a positive weight is not counted, so every bucket has a positive weight. -/
theorem Weighed.add (weighed : histogram.Weighed) (degrees weight : ℝ) :
    (histogram.add degrees weight).Weighed := by
  unfold Histogram.add
  split
  · exact weighed
  · next counts =>
    have positive : 0 < weight := by
      rw [Bool.or_eq_true, decide_eq_true_eq, not_or, not_le] at counts
      norm_num at counts
      exact counts.1
    have before : ∀ bucket ∈ histogram.buckets, 0 < bucket.2 := fun bucket member =>
      weighed _ (List.mem_map_of_mem member)
    intro entry member
    obtain ⟨bucket, found, rfl⟩ := List.mem_map.mp member
    exact addAt_pos positive before bucket found

theorem ofEntries_weighed (entries : List (WeightedAngle ℝ)) : (ofEntries entries).Weighed :=
  ofEntries_induction empty_weighed (fun _ weighed => weighed.add) entries

/-! ## Buckets of their own -/

/-- Whether an angle is the one that its bucket stands for. -/
def OnBucket (degrees : ℝ) : Prop := Scalar.ofInt (bucketKey degrees) / 10.0 = degrees

theorem onBucket_tenths {degrees : ℝ} (key : ℤ) (above : -1800 < key) (below : key ≤ 1800)
    (tenths : degrees = key / 10) : OnBucket degrees := by
  unfold OnBucket
  rw [tenths, bucketKey_tenths above below]
  norm_num [Scalar.ofInt]

/-- At a key without a bucket an addition opens one and touches no other. -/
theorem addAt_perm {key : ℤ} {weight : ℝ} {buckets : List (ℤ × ℝ)}
    (fresh : key ∉ buckets.map Prod.fst) :
    (addAt key weight buckets).Perm ((key, weight) :: buckets) := by
  have added : (0.0 : ℝ) + weight = weight := by norm_num
  induction buckets with
  | nil => simp [addAt, added]
  | cons bucket rest ih =>
    simp only [List.map_cons, List.mem_cons, not_or] at fresh
    unfold addAt
    split
    · rw [added]
    · rw [if_neg fresh.1]
      exact ((ih fresh.2).cons _).trans (.swap _ _ _)

/-- What is added at an angle without a bucket makes one. -/
theorem add_perm {entry : WeightedAngle ℝ} (positive : 0 < entry.weight)
    (own : OnBucket entry.angle) (fresh : bucketKey entry.angle ∉ histogram.buckets.map Prod.fst) :
    (histogram.add entry.angle entry.weight).entries.Perm (entry :: histogram.entries) := by
  have counts : ¬((decide (entry.weight ≤ 0.0) || !Scalar.isFinite entry.angle) = true) := by
    norm_num [Scalar.isFinite, positive]
  have angle : Scalar.ofInt (bucketKey entry.angle) / 10.0 = entry.angle := own
  unfold add entries
  rw [if_neg counts]
  refine ((addAt_perm fresh).map _).trans (.of_eq ?_)
  rw [List.map_cons]
  dsimp only
  rw [angle]

/-- **Weights at different angles have a bucket each.** By induction on the entries, into any
histogram that has none of their buckets; as an angle on a bucket is told by its key, the entry that
was added leaves the buckets of the others free. -/
theorem ofEntries_perm {entries : List (WeightedAngle ℝ)}
    (positive : ∀ entry ∈ entries, 0 < entry.weight) (own : ∀ entry ∈ entries, OnBucket entry.angle)
    (distinct : (entries.map WeightedAngle.angle).Nodup) :
    (ofEntries entries).entries.Perm entries := by
  have added (histogram : Histogram ℝ) (fresh : ∀ entry ∈ entries,
      bucketKey entry.angle ∉ histogram.buckets.map Prod.fst) :
      (entries.foldl (fun histogram entry => histogram.add entry.angle entry.weight)
        histogram).entries.Perm (histogram.entries ++ entries) := by
    induction entries generalizing histogram with
    | nil => simp
    | cons entry rest ih =>
      obtain ⟨here, later⟩ := List.forall_mem_cons.mp positive
      obtain ⟨own', owns⟩ := List.forall_mem_cons.mp own
      obtain ⟨fresh', others⟩ := List.forall_mem_cons.mp fresh
      obtain ⟨apart, distinct'⟩ := List.nodup_cons.mp distinct
      have one := add_perm here own' fresh'
      refine (ih later owns distinct' (histogram.add entry.angle entry.weight) ?_).trans ?_
      · intro other member present
        unfold Histogram.add at present
        split at present
        · exact others other member present
        · rcases mem_keys_addAt present with same | before
          · -- one bucket stands for one angle only
            have angles : other.angle = entry.angle := by
              rw [← owns other member, ← own', same]
            exact apart (angles ▸ List.mem_map_of_mem member)
          · exact others other member before
      · exact (one.append_right rest).trans List.perm_middle.symm
  exact added empty fun _ _ => List.not_mem_nil

end Histogram

/-- The histogram of a page is one of normal directions. -/
theorem PageOrientation.histogramOf_inRange (glyphs : List (GlyphEvent ℝ)) :
    (histogramOf glyphs).InRange :=
  histogramOf_induction Histogram.empty_inRange (fun _ inRange => inRange.add) glyphs

/-- The histogram of a page has weight in each of its buckets. -/
theorem PageOrientation.histogramOf_weighed (glyphs : List (GlyphEvent ℝ)) :
    (histogramOf glyphs).Weighed :=
  histogramOf_induction Histogram.empty_weighed (fun _ weighed => weighed.add) glyphs

end PlacedText
