import PlacedText.Proofs.Page.ReadingOrder
import PlacedText.Proofs.Scalar.Stable

/-! # The lines of a sweep

Glyphs that are sorted by their baselines are swept into lines. What a line is is said without a
band (`Layout.Swept`): each glyph of a line has its middle within the glyphs of the line before it,
and the first glyph of the next line has not. The lines by position are the segments of such a
sweep, each read from left to right (`Layout.linesByPosition_swept`).
-/

namespace PlacedText

/-! ## The smaller and the larger of two doubles -/

namespace Binary64

theorem le_of_lt {x y : Float} (less : x < y) : x ≤ y := by
  rw [lt_iff] at less
  rw [le_iff]
  obtain ⟨p, q, first, second, less⟩ := less
  exact ⟨p, q, first, second, less.le⟩

/-- The smaller of two doubles is below a third one just where one of them is. A NaN is below
nothing, and the program takes the other number in its place. -/
theorem min_le_iff {a b c : Float} : Scalar.min a b ≤ c ↔ a ≤ c ∨ b ≤ c := by
  constructor
  · intro le
    unfold Scalar.min at le
    split at le
    · exact .inr le
    · split at le
      · exact .inl le
      · exact .inr le
  · rintro (le | le)
    · unfold Scalar.min
      split
      · next less => exact Scalar.Ordered.le_trans _ _ _ (le_of_lt less) le
      · rwa [if_pos (Scalar.Ordered.self_of_le _ _ le).1]
    · exact Scalar.min_le_of_right_le le

/-- The greater of two doubles is above a third one just where one of them is, NaN as before. -/
theorem le_max_iff {a b c : Float} : c ≤ Scalar.max a b ↔ c ≤ a ∨ c ≤ b := by
  constructor
  · intro le
    unfold Scalar.max at le
    split at le
    · exact .inr le
    · split at le
      · exact .inl le
      · exact .inr le
  · rintro (le | le)
    · unfold Scalar.max
      split
      · next less => exact Scalar.Ordered.le_trans _ _ _ le (le_of_lt less)
      · rwa [if_pos (Scalar.Ordered.self_of_le _ _ le).2]
    · exact Scalar.le_max_of_le_right le

end Binary64

namespace Layout

variable {α : Type} [Scalar α]

/-! ## Lines without glyphs -/

omit [Scalar α] in
/-- A glyph in front of the first line leaves no line empty. -/
theorem consLine_ne_nil {glyph : PlacedGlyph α} {lines : List (List (PlacedGlyph α))}
    (visible : ∀ line ∈ lines, line ≠ []) : ∀ line ∈ consLine glyph lines, line ≠ [] := by
  cases lines with
  | nil => simp [consLine]
  | cons first others =>
    rintro line (_ | later)
    · exact List.cons_ne_nil _ _
    · exact visible line (.tail _ ‹_›)

/-- No line is empty. -/
theorem linesFrom_ne_nil {follows : PlacedGlyph α → PlacedGlyph α → Bool} {band : Band α}
    {glyph : PlacedGlyph α} {rest : List (PlacedGlyph α)} :
    ∀ line ∈ linesFrom follows band glyph rest, line ≠ [] := by
  induction rest generalizing band glyph with
  | nil => simp [linesFrom]
  | cons next rest ih =>
    unfold linesFrom
    split
    · exact consLine_ne_nil ih
    · exact List.forall_mem_cons.mpr ⟨List.cons_ne_nil _ _, ih⟩

theorem lines_ne_nil (follows : PlacedGlyph α → PlacedGlyph α → Bool)
    (glyphs : List (PlacedGlyph α)) : ∀ line ∈ lines follows glyphs, line ≠ [] := by
  cases glyphs with
  | nil => simp [lines]
  | cons glyph rest => exact linesFrom_ne_nil

/-- No line is without glyphs. -/
theorem linesByPosition_ne_nil (glyphs : List (PlacedGlyph α)) :
    ∀ line ∈ linesByPosition glyphs, line ≠ [] := by
  intro line member none
  obtain ⟨segment, isSegment, rfl⟩ := List.mem_map.mp member
  have members := Scalar.sortOn_perm (fun glyph : PlacedGlyph α => glyph.layoutBox.left) segment
  rw [none] at members
  exact lines_ne_nil _ _ segment isSegment (List.nil_perm.mp members)

/-! ## What is on a line -/

/-- Whether the middle of a glyph lies within the extent that the glyphs of a line have together. -/
def Within (line : List (PlacedGlyph α)) (glyph : PlacedGlyph α) : Prop :=
  (∃ upper ∈ line, upper.layoutBox.top ≤ glyph.middle) ∧
    ∃ lower ∈ line, glyph.middle ≤ lower.layoutBox.bottom

/-- Whether every glyph of a line but the first one lies within those before it. -/
def Joined (line : List (PlacedGlyph α)) : Prop :=
  ∀ before glyph, before ++ [glyph] <+: line → before ≠ [] → Within before glyph

/-- Whether segments are lines: a glyph stays on the line when its middle lies within the glyphs
that the line has so far, and begins the next line when it does not. -/
structure Swept (segments : List (List (PlacedGlyph α))) : Prop where
  visible : ∀ line ∈ segments, line ≠ []
  joined : ∀ line ∈ segments, Joined line
  parted : segments.IsChain fun line next => ∀ glyph ∈ next.head?, ¬Within line glyph

/-- A line of one glyph has no glyph behind the first one. -/
theorem joined_singleton (glyph : PlacedGlyph α) : Joined [glyph] := by
  intro before last ahead visible
  have short := ahead.length_le
  have long := List.length_pos_iff.mpr visible
  simp only [List.length_append, List.length_singleton] at short
  omega

/-- A line may be continued by a glyph that lies within all before it. -/
theorem Joined.concat {line : List (PlacedGlyph α)} {next : PlacedGlyph α} (joined : Joined line)
    (within : Within line next) : Joined (line ++ [next]) := by
  intro before glyph ahead visible
  rcases List.prefix_concat_iff.mp ahead with whole | inside
  · obtain ⟨rfl, last⟩ := List.append_inj' whole rfl
    cases last
    exact within
  · exact joined before glyph inside visible

/-! ## The band of a line -/

/-- Whether a band is the extent that the glyphs of a line have together. -/
structure Spans (band : Band α) (line : List (PlacedGlyph α)) : Prop where
  top : ∀ height, band.top ≤ height ↔ ∃ upper ∈ line, upper.layoutBox.top ≤ height
  bottom : ∀ height, height ≤ band.bottom ↔ ∃ lower ∈ line, height ≤ lower.layoutBox.bottom

theorem spans_ofGlyph (glyph : PlacedGlyph α) : Spans (Band.ofGlyph glyph) [glyph] where
  top height := by simp [Band.ofGlyph]
  bottom height := by simp [Band.ofGlyph]

theorem Spans.holds_iff {band : Band α} {line : List (PlacedGlyph α)} (spans : Spans band line)
    (glyph : PlacedGlyph α) : band.holds glyph = true ↔ Within line glyph := by
  unfold Band.holds Within
  rw [Bool.and_eq_true, decide_eq_true_eq, decide_eq_true_eq]
  exact and_congr (spans.top glyph.middle) (spans.bottom glyph.middle)

section Doubles

variable {band : Band Float} {line : List (PlacedGlyph Float)} {glyph : PlacedGlyph Float}

/-- The extent of a line and one more glyph is the extent that is extended by the glyph. -/
theorem Spans.extend (spans : Spans band line) (next : PlacedGlyph Float) :
    Spans (band.extend next) (line ++ [next]) where
  top height := by
    unfold Band.extend
    rw [Binary64.min_le_iff, spans.top]
    simp only [List.mem_append, List.mem_singleton, or_and_right, exists_or, exists_eq_left]
  bottom height := by
    unfold Band.extend
    rw [Binary64.le_max_iff, spans.bottom]
    simp only [List.mem_append, List.mem_singleton, or_and_right, exists_or, exists_eq_left]

/-- The lines from a glyph on are swept, the first of them behind the glyphs that its line has so
far. -/
theorem swept_linesFrom (rest : List (PlacedGlyph Float)) (spans : Spans band (line ++ [glyph]))
    (joined : Joined (line ++ [glyph])) :
    ∃ first others, linesFrom (fun _ _ => true) band glyph rest = (glyph :: first) :: others ∧
      Swept ((line ++ glyph :: first) :: others) := by
  induction rest generalizing band line glyph with
  | nil => exact ⟨[], [], rfl, by simp, by simpa using joined, .singleton _⟩
  | cons next rest ih =>
    unfold linesFrom
    by_cases held : band.holds next = true
    · have within := (spans.holds_iff next).mp held
      obtain ⟨first, others, found, swept⟩ := ih (spans.extend next) (joined.concat within)
      rw [List.append_assoc, List.singleton_append] at swept
      refine ⟨next :: first, others, ?_, swept⟩
      rw [held, Bool.and_true, if_pos rfl, found]
      rfl
    · have outside := (spans.holds_iff next).not.mp held
      obtain ⟨first, others, found, swept⟩ :=
        @ih _ [] _ (spans_ofGlyph next) (joined_singleton next)
      rw [List.nil_append] at swept
      refine ⟨[], (next :: first) :: others, ?_, ?_, ?_, ?_⟩
      · rw [Bool.and_true, if_neg held, found]
      · exact List.forall_mem_cons.mpr ⟨by simp, swept.visible⟩
      · exact List.forall_mem_cons.mpr ⟨joined, swept.joined⟩
      · exact .cons_cons (by simpa using outside) swept.parted

/-- A sweep cuts glyphs into lines. -/
theorem swept_lines (glyphs : List (PlacedGlyph Float)) :
    Swept (lines (fun _ _ => true) glyphs) := by
  cases glyphs with
  | nil => exact ⟨by simp [lines], by simp [lines], .nil⟩
  | cons glyph rest =>
    obtain ⟨first, others, found, swept⟩ : ∃ first others, linesFrom _ _ _ rest = _ ∧
        Swept (([] ++ glyph :: first) :: others) :=
      swept_linesFrom rest (spans_ofGlyph glyph) (joined_singleton glyph)
    change Swept (linesFrom _ _ _ _)
    rw [found]
    exact swept

end Doubles

/-! ## Lines by position -/

/-- **Lines by position are in reading order.** The stable order by baselines falls into the
segments of a sweep, each of which is read in the stable order from left to right. So no line is
empty, and no glyph has its baseline below that of a glyph on a later line. -/
theorem linesByPosition_swept (glyphs : List (PlacedGlyph Float)) :
    ∃ segments : List (List (PlacedGlyph Float)),
      Scalar.StableSort (fun glyph => glyph.layoutBox.bottom) glyphs segments.flatten ∧
      Swept segments ∧
      List.Forall₂ (Scalar.StableSort fun glyph => glyph.layoutBox.left) segments
        (linesByPosition glyphs) ∧
      (∀ line ∈ linesByPosition glyphs, line ≠ []) ∧
      (linesByPosition glyphs).Pairwise fun line later => ∀ glyph ∈ line, ∀ other ∈ later,
        Scalar.totalLE glyph.layoutBox.bottom other.layoutBox.bottom = true := by
  have flat : (lines (fun _ _ => true) (byBaseline glyphs)).flatten = byBaseline glyphs :=
    flatten_lines _ _
  have sorted := byBaseline_pairwise glyphs
  rw [← flat] at sorted
  refine ⟨lines (fun _ _ => true) (byBaseline glyphs), ?_, swept_lines _, ?_,
    linesByPosition_ne_nil glyphs, ?_⟩
  · rw [flat]
    exact Scalar.sortOn_stable _ glyphs
  · refine List.forall₂_map_right_iff.mpr (List.forall₂_same.mpr fun line _ => ?_)
    exact Scalar.sortOn_stable _ line
  · refine List.pairwise_map.mpr ((List.pairwise_flatten.mp sorted).2.imp ?_)
    intro line later above glyph member other member'
    exact above glyph ((Scalar.sortOn_perm _ line).mem_iff.mp member) other
      ((Scalar.sortOn_perm _ later).mem_iff.mp member')

end Layout

end PlacedText
