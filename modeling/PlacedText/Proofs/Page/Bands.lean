import PlacedText.Page.Orientation
import PlacedText.Proofs.Scalar.Ordered
import Mathlib.Data.List.Forall2

/-! # Every glyph has one band

The bands of a page share out its glyphs: each glyph is given one of them (`Clusters.bandOf_lt`),
the bands are replayed once each, the largest angle first, and the glyphs of all bands are those of
the page (`perm_flatMap_filter`).
-/

namespace PlacedText

variable {α β κ : Type}

/-! ## Lists that are shared out -/

/-- Items that are shared out by keys are all there when each has one of the keys. -/
theorem perm_flatMap_filter [DecidableEq κ] (key : β → κ) {keys : List κ} (distinct : keys.Nodup)
    {items : List β} (known : ∀ item ∈ items, key item ∈ keys) :
    (keys.flatMap fun k => items.filter fun item => key item = k).Perm items := by
  induction keys generalizing items with
  | nil =>
    cases items with
    | nil => exact .refl []
    | cons item items => cases known item (.head items)
  | cons k keys ih =>
    obtain ⟨fresh, distinct⟩ := List.nodup_cons.mp distinct
    have others : ∀ item ∈ items.filter fun item => ¬key item = k, key item ∈ keys := by
      intro item member
      obtain ⟨present, different⟩ := List.mem_filter.mp member
      rcases List.mem_cons.mp (known item present) with here | later
      · exact absurd here (by simpa using different)
      · exact later
    have rest := ih distinct others
    have same : (keys.flatMap fun k' => (items.filter fun item => ¬key item = k).filter fun item =>
        key item = k') = keys.flatMap fun k' => items.filter fun item => key item = k' := by
      apply List.flatMap_congr
      intro k' later
      have different : k' ≠ k := by
        rintro rfl
        exact fresh later
      rw [List.filter_filter]
      apply List.filter_congr
      intro item _
      by_cases own : key item = k'
      · simp [own, different]
      · simp [own]
    rw [same] at rest
    rw [List.flatMap_cons]
    refine (rest.append_left _).trans ?_
    simpa using List.filter_append_perm (fun item => decide (key item = k)) items

/-- Choosing among as many items as there are glyphs, by the bands of the glyphs. -/
theorem forall₂_filterMap_zip {related : β → α → Prop} [DecidableEq κ] (key : β → Option κ) (k : κ)
    {glyphs : List β} {items : List α} (same : List.Forall₂ related glyphs items) :
    List.Forall₂ related (glyphs.filter fun glyph => key glyph = some k)
      ((items.zip (glyphs.map key)).filterMap fun (item, own?) =>
        if own? = some k then some item else none) := by
  induction same with
  | nil => exact .nil
  | @cons glyph item glyphs items here _ ih =>
    by_cases own : key glyph = some k
    · simpa [own] using List.Forall₂.cons here ih
    · simpa [own] using ih

theorem mergeSort_ne_nil (le : β → β → Bool) {items : List β} (visible : items ≠ []) :
    items.mergeSort le ≠ [] := by
  intro none
  have permuted := List.mergeSort_perm items le
  rw [none] at permuted
  exact visible (List.nil_perm.mp permuted)

/-! ## The least item -/

/-- In a list that is not empty a least item is found, and it is one of them. -/
theorem Scalar.firstMinOn_mem [Scalar α] (key : β → α) {items : List β} (some : items ≠ []) :
    ∃ least ∈ items, Scalar.firstMinOn? key items = .some least := by
  cases items with
  | nil => exact absurd rfl some
  | cons first items =>
    refine ⟨_, ?_, rfl⟩
    induction items generalizing first with
    | nil => exact .head []
    | cons item items ih =>
      rw [List.foldl_cons]
      split
      · rcases List.mem_cons.mp (ih first (by simp)) with here | later
        · rw [here]
          exact .head _
        · exact .tail _ (.tail _ later)
      · exact .tail _ (ih item (by simp))

/-- The least item that is found is one of the list. -/
theorem Scalar.mem_of_firstMinOn [Scalar α] {key : β → α} {items : List β} {least : β}
    (found : Scalar.firstMinOn? key items = some least) : least ∈ items := by
  have visible : items ≠ [] := by
    rintro rfl
    cases found
  obtain ⟨_, member, found'⟩ := Scalar.firstMinOn_mem key visible
  cases found.symm.trans found'
  exact member

theorem Scalar.firstMinOn_eq_none_iff [Scalar α] {key : β → α} {items : List β} :
    Scalar.firstMinOn? key items = none ↔ items = [] := by
  cases items with
  | nil => exact ⟨fun _ => rfl, fun _ => rfl⟩
  | cons first items => exact ⟨nofun, nofun⟩

/-! ## Clusters -/

theorem Histogram.isEmpty_eq [Scalar α] (histogram : Histogram α) :
    histogram.isEmpty = histogram.entries.isEmpty :=
  List.isEmpty_map.symm

namespace Clusters

variable [Scalar α] {clusters : Clusters α} {threshold : α}

/-- Every angle has a band, where there is any cluster. -/
theorem bandOf_lt (visible : clusters.anchors ≠ []) (angle : α) :
    ∃ band < clusters.size, clusters.bandOf? angle = some band := by
  unfold bandOf?
  dsimp only
  cases covered : (List.range clusters.size).find? (clusters.covers (Angle.normalize angle)) with
  | some band => exact ⟨band, List.mem_range.mp (List.mem_of_find?_eq_some covered), rfl⟩
  | none =>
    have anchors : clusters.angles.zipIdx ≠ [] := by
      simpa [angles] using visible
    obtain ⟨⟨anchor, band⟩, member, least⟩ := Scalar.firstMinOn_mem
      (fun entry : α × Nat => Angle.distance entry.1 (Angle.normalize angle)) anchors
    refine ⟨band, ?_, ?_⟩
    · have bounded := List.snd_lt_of_mem_zipIdx member
      simpa [angles, size] using bounded
    · rw [least]
      rfl

/-- Behind an entry there is an anchor. -/
theorem merge_ne_nil (anchors : List (WeightedAngle α)) (entry : WeightedAngle α) :
    merge threshold anchors entry ≠ [] := by
  unfold merge
  cases found : nearestWithin? threshold entry.angle anchors with
  | none => simp
  | some index =>
    cases anchors with
    | nil => cases found
    | cons anchor anchors =>
      intro none
      have lengths := congrArg List.length none
      simp at lengths

theorem foldl_merge_ne_nil {anchors entries : List (WeightedAngle α)}
    (visible : anchors ≠ [] ∨ entries ≠ []) : entries.foldl (merge threshold) anchors ≠ [] := by
  induction entries generalizing anchors with
  | nil => simpa using visible
  | cons entry entries ih => exact ih (Or.inl (merge_ne_nil anchors entry))

theorem ofHistogram_anchors {histogram : Histogram α} (visible : histogram.isEmpty = false) :
    (ofHistogram histogram threshold).anchors ≠ [] := by
  have entries : histogram.entries ≠ [] := by
    rwa [histogram.isEmpty_eq, List.isEmpty_eq_false_iff] at visible
  exact mergeSort_ne_nil _ (foldl_merge_ne_nil (Or.inr (mergeSort_ne_nil _ entries)))

end Clusters

namespace PageOrientation

variable [Scalar α]

/-- There is at least one orientation on every page. -/
theorem ofGlyphs_anchors (options : ProcessOptions α) (glyphs : List (GlyphEvent α)) :
    (ofGlyphs options glyphs).clusters.anchors ≠ [] := by
  unfold ofGlyphs clustersOf
  dsimp only
  split
  · simp [Clusters.single]
  · next visible => exact Clusters.ofHistogram_anchors (by simpa using visible)

/-- The band of a glyph among the orientations of a page. -/
def bandOf? (orientation : PageOrientation α) (glyph : GlyphEvent α) : Option Nat :=
  orientation.clusters.bandOf? (Angle.ofTransform glyph.trm)

/-- The glyphs that are given a band, in their order. -/
def inBand (orientation : PageOrientation α) (glyphs : List (GlyphEvent α)) (band : Nat) :
    List (GlyphEvent α) :=
  glyphs.filter fun glyph => orientation.bandOf? glyph = some band

theorem descending_perm (orientation : PageOrientation α) :
    (orientation.descending.map Prod.snd).Perm (List.range orientation.clusters.size) := by
  unfold descending Scalar.sortOnDescending
  refine ((List.mergeSort_perm _ _).map Prod.snd).trans ?_
  rw [List.zipIdx_map_snd]
  simp [Clusters.size, Clusters.angles, List.range_eq_range']

theorem getElem?_of_mem_descending {orientation : PageOrientation α} {angle : α} {band : Nat}
    (member : (angle, band) ∈ orientation.descending) :
    orientation.clusters.angles[band]? = some angle :=
  List.mk_mem_zipIdx_iff_getElem?.mp (List.mem_mergeSort.mp member)

end PageOrientation

/-! ## Descending angles -/

/-- The bands of a page are replayed by descending angles. -/
theorem PageOrientation.descending_pairwise [Scalar α] [Scalar.Ordered α]
    (orientation : PageOrientation α) :
    (orientation.descending.map Prod.fst).Pairwise fun angle later =>
      Scalar.totalLE later angle := by
  unfold descending Scalar.sortOnDescending
  rw [List.pairwise_map]
  apply List.pairwise_mergeSort
  · exact fun first second third le le' => Scalar.Ordered.totalLE_trans _ _ _ le' le
  · exact fun first second => Scalar.Ordered.totalLE_total _ _

end PlacedText
