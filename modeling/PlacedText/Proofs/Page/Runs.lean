import PlacedText.Page.Placement
import PlacedText.Proofs.Drawing.Replay
import PlacedText.Proofs.Effect.Invariant
import PlacedText.Proofs.Page.Bands

/-! # The runs that a page is laid out in

Each replay of a page gives a run of the glyphs of its band. If every replay shows the glyphs that
were measured, in the same order, then each of them is in one run, with its text, and the runs have
nothing else (`PageLayout.runs_perm`).
-/

namespace PlacedText

variable {α : Type} [Scalar α]

/-- The text that a glyph is laid out with: its own, or the replacement character if it has none. -/
def GlyphEvent.shownText (glyph : GlyphEvent α) : String := glyph.unicode?.getD "\uFFFD"

/-- How many glyphs have no text. -/
def GlyphEvent.unmapped (glyphs : List (GlyphEvent α)) : Nat :=
  glyphs.countP fun glyph => glyph.unicode? = none

/-! ## Placing -/

/-- Every glyph is placed, with its text. -/
theorem PlacementFrame.exists_place (frame : PlacementFrame α) (glyph : GlyphEvent α) :
    ∃ placed, frame.place? glyph = some placed ∧ placed.text = glyph.shownText :=
  ⟨_, rfl, rfl⟩

/-- Whether a placed glyph is one that was measured, as a replay sees it. -/
def PlacementFrame.Shows (frame : PlacementFrame α) (glyph : GlyphEvent α)
    (placed : PlacedGlyph α) : Prop :=
  ∃ seen : GlyphEvent α, glyph.Same seen ∧ frame.place? seen = some placed ∧
    placed.text = glyph.shownText

/-- Glyphs are all placed, in their order. -/
theorem PlacementFrame.forall₂_filterMap {β : Type} (frame : PlacementFrame α)
    {related : β → GlyphEvent α → Prop} {items : List β} {seen : List (GlyphEvent α)}
    (same : List.Forall₂ related items seen) :
    List.Forall₂ (fun item placed => ∃ glyph, related item glyph ∧
      frame.place? glyph = some placed) items (seen.filterMap frame.place?) := by
  induction same with
  | nil => exact .nil
  | @cons item here items seen related _ ih =>
    obtain ⟨placed, found, -⟩ := frame.exists_place here
    rw [List.filterMap_cons_some found]
    exact .cons ⟨here, related, found⟩ ih

/-- The glyphs that a replay sees are all placed, in their order. -/
theorem PlacementFrame.shows_filterMap (frame : PlacementFrame α)
    {glyphs seen : List (GlyphEvent α)}
    (same : List.Forall₂ GlyphEvent.Same glyphs seen) :
    List.Forall₂ frame.Shows glyphs (seen.filterMap frame.place?) := by
  refine (frame.forall₂_filterMap same).imp ?_
  rintro glyph placed ⟨here, related, found⟩
  obtain ⟨_, again, text⟩ := frame.exists_place here
  cases again.symm.trans found
  refine ⟨here, related, found, ?_⟩
  rw [text]
  unfold GlyphEvent.shownText
  rw [related.unicode]

namespace PageLayout

variable {options : ProcessOptions α} {orientation : PageOrientation α} {mediaBox cropBox : Rect α}

/-- The glyphs that a replay hands to the layout: those of its band, placed. -/
def run (options : ProcessOptions α) (orientation : PageOrientation α) (mediaBox cropBox : Rect α)
    (replay : Replay α) : List (PlacedGlyph α) :=
  (orientation.ofBand replay.band replay.glyphs).filterMap
    (frame options orientation mediaBox cropBox replay.angle).place?

/-- The text of a page is laid out run by run. -/
theorem ofReplays_text (replays : List (Replay α)) :
    (ofReplays options orientation mediaBox cropBox replays).text =
      (replays.map (run options orientation mediaBox cropBox)).foldl
        (fun text glyphs => text.pushRun options.layout glyphs) .empty := by
  have general (layout : PageLayout α) : (replays.foldl (fun layout replay =>
      layout.addRun options.layout (frame options orientation mediaBox cropBox replay.angle)
        (orientation.ofBand replay.band replay.glyphs)) layout).text =
      (replays.map (run options orientation mediaBox cropBox)).foldl
        (fun text glyphs => text.pushRun options.layout glyphs) layout.text := by
    induction replays generalizing layout with
    | nil => rfl
    | cons replay replays ih => exact ih _
  exact general empty

/-- The glyphs without text are counted run by run. -/
theorem ofReplays_unmapped (replays : List (Replay α)) :
    (ofReplays options orientation mediaBox cropBox replays).unmapped =
      (replays.flatMap fun replay => orientation.ofBand replay.band replay.glyphs).countP
        fun glyph => glyph.unicode?.isNone := by
  have general (layout : PageLayout α) : (replays.foldl (fun layout replay =>
      layout.addRun options.layout (frame options orientation mediaBox cropBox replay.angle)
        (orientation.ofBand replay.band replay.glyphs)) layout).unmapped =
      layout.unmapped + (replays.flatMap fun replay =>
        orientation.ofBand replay.band replay.glyphs).countP fun glyph =>
          glyph.unicode?.isNone := by
    induction replays generalizing layout with
    | nil => rfl
    | cons replay replays ih =>
      rw [List.foldl_cons, ih, List.flatMap_cons, List.countP_append]
      unfold addRun
      dsimp only
      rw [← List.countP_eq_length_filter]
      omega
  have whole := general empty
  rw [show (empty : PageLayout α).unmapped = 0 from rfl, Nat.zero_add] at whole
  exact whole

end PageLayout

/-! ## Replaying a page -/

/-- Whether replays are those of the orientations of a page, in their order, and something is true
of the angle and the glyphs of each. -/
def Replay.Views (about : α → List (GlyphEvent α) → Prop) (orientation : PageOrientation α)
    (replays : List (Replay α)) : Prop :=
  List.Forall₂ (fun (entry : α × Nat) replay => replay.angle = entry.1 ∧ replay.band = entry.2 ∧
    about replay.angle replay.glyphs) orientation.descending replays

open Effect in
/-- What every view tells is true of the replays, as long as something holds of the state that views
keep. -/
theorem Replay.views_of_replays {ε σ : Type} (holds : σ → Prop) {orientation : PageOrientation α}
    {about : α → List (GlyphEvent α) → Prop} {view : α → EStateM ε σ (List (GlyphEvent α))}
    {replays : List (Replay α)} {before after : σ} (kept : ∀ angle, Keeps holds (view angle))
    (shown : ∀ angle before glyphs after, holds before → view angle before = .ok glyphs after →
      about angle glyphs)
    (held : holds before)
    (replayed : PageLayout.replays orientation view before = .ok replays after) :
    Views about orientation replays := by
  unfold PageLayout.replays at replayed
  refine Keeps.mapM_eq_ok (fun entry => ?_) ?_ held replayed
  · exact (kept entry.1).bind fun glyphs => keeps_pure _
  · intro entry before replay last held ended
    obtain ⟨glyphs, between, viewed, rest⟩ := bind_eq_ok ended
    cases rest
    exact ⟨rfl, rfl, shown _ _ _ _ held viewed⟩

namespace Replay.Views

variable {about : α → List (GlyphEvent α) → Prop} {orientation : PageOrientation α}
  {replays : List (Replay α)}

omit [Scalar α] in
theorem forall₂_map_eq {β γ δ : Type} {first : β → δ} {second : γ → δ} {related : β → γ → Prop}
    (same : ∀ item item', related item item' → first item = second item') {items : List β}
    {items' : List γ} (relatedAll : List.Forall₂ related items items') :
    items.map first = items'.map second := by
  have mapped : List.Forall₂ (· = ·) (items.map first) (items'.map second) :=
    List.forall₂_map_left_iff.mpr (List.forall₂_map_right_iff.mpr (relatedAll.imp same))
  rw [List.forall₂_eq_eq_eq] at mapped
  exact mapped

theorem bands (views : Views about orientation replays) :
    replays.map Replay.band = orientation.descending.map Prod.snd :=
  (forall₂_map_eq (fun _ _ related => related.2.1.symm) views).symm

theorem angles (views : Views about orientation replays) :
    replays.map Replay.angle = orientation.descending.map Prod.fst :=
  (forall₂_map_eq (fun _ _ related => related.1.symm) views).symm

/-- A view stands at each angle with its band, in the order of the replays. -/
theorem entries (views : Views about orientation replays) :
    replays.map (fun replay => (replay.angle, replay.band)) = orientation.descending := by
  have same : orientation.descending.map id =
      replays.map fun replay => (replay.angle, replay.band) :=
    forall₂_map_eq (fun _ _ related => Prod.ext related.1.symm related.2.1.symm) views
  rw [List.map_id] at same
  exact same.symm

/-- Each view is that of one of the bands that are replayed. -/
theorem exists_entry (views : Views about orientation replays) :
    ∀ replay ∈ replays, ∃ entry ∈ orientation.descending, replay.angle = entry.1 ∧
      replay.band = entry.2 ∧ about replay.angle replay.glyphs := by
  unfold Views at views
  generalize orientation.descending = entries at views ⊢
  induction views with
  | nil => simp
  | @cons entry first _ _ here _ ih =>
    intro replay member
    rcases List.mem_cons.mp member with rfl | later
    · exact ⟨entry, .head _, here⟩
    · obtain ⟨entry, found, related⟩ := ih replay later
      exact ⟨entry, .tail _ found, related⟩

theorem glyphs (views : Views about orientation replays) :
    ∀ replay ∈ replays, about replay.angle replay.glyphs := by
  intro replay member
  obtain ⟨_, _, _, _, told⟩ := views.exists_entry replay member
  exact told

/-- Each replay is turned by the angle of its band. -/
theorem ofAngle (views : Views about orientation replays) :
    ∀ replay ∈ replays, orientation.clusters.angles[replay.band]? = some replay.angle := by
  intro replay member
  obtain ⟨⟨angle, band⟩, found, rfl, rfl, _⟩ := views.exists_entry replay member
  exact PageOrientation.getElem?_of_mem_descending found

/-- Each band is replayed once. -/
theorem nodup (views : Views about orientation replays) : (replays.map Replay.band).Nodup := by
  rw [views.bands]
  exact orientation.descending_perm.nodup_iff.mpr List.nodup_range

end Replay.Views

/-! ## Sharing out what was measured -/

/-- Whether replays are those of the orientations of some glyphs, in their order, and each shows
these glyphs in the same order. -/
def Replay.ShowAgain (orientation : PageOrientation α) (measured : List (GlyphEvent α))
    (replays : List (Replay α)) : Prop :=
  Views (fun _ => List.Forall₂ GlyphEvent.Same measured) orientation replays

namespace Replay.ShowAgain

variable {options : ProcessOptions α} {measured : List (GlyphEvent α)} {replays : List (Replay α)}
  {mediaBox cropBox : Rect α}

/-- Each replay shows the glyphs of its band, as they were measured. -/
theorem ofBand (again : ShowAgain (.ofGlyphs options measured) measured replays) :
    ∀ replay ∈ replays, List.Forall₂ GlyphEvent.Same
      ((PageOrientation.ofGlyphs options measured).inBand measured replay.band)
      ((PageOrientation.ofGlyphs options measured).ofBand replay.band replay.glyphs) :=
  fun replay member => forall₂_filterMap_zip _ replay.band (again.glyphs replay member)

/-- The run of a replay has the measured glyphs of its band, in their order. -/
theorem run (again : ShowAgain (.ofGlyphs options measured) measured replays) :
    ∀ replay ∈ replays, List.Forall₂
      (PageLayout.frame options (.ofGlyphs options measured) mediaBox cropBox replay.angle).Shows
      ((PageOrientation.ofGlyphs options measured).inBand measured replay.band)
      (PageLayout.run options (.ofGlyphs options measured) mediaBox cropBox replay) :=
  fun replay member => PlacementFrame.shows_filterMap _ (again.ofBand replay member)

/-- The band of every glyph is replayed. -/
theorem exists_replay (again : ShowAgain (.ofGlyphs options measured) measured replays)
    (glyph : GlyphEvent α) :
    ∃ replay ∈ replays,
      (PageOrientation.ofGlyphs options measured).bandOf? glyph = some replay.band := by
  have visible := PageOrientation.ofGlyphs_anchors options measured
  obtain ⟨band, bounded, given⟩ := Clusters.bandOf_lt visible (Angle.ofTransform glyph.trm)
  have ranged := (PageOrientation.descending_perm (.ofGlyphs options measured)).mem_iff.mpr
    (List.mem_range.mpr bounded)
  rw [← again.bands] at ranged
  obtain ⟨replay, member, rfl⟩ := List.mem_map.mp ranged
  exact ⟨replay, member, given⟩

/-- The glyphs of all bands are those that were measured. -/
theorem flatMap_perm (again : ShowAgain (.ofGlyphs options measured) measured replays) :
    (replays.flatMap fun replay =>
      (PageOrientation.ofGlyphs options measured).inBand measured replay.band).Perm measured := by
  have keys : ((replays.map Replay.band).map some).Nodup :=
    List.pairwise_map.mpr (again.nodup.imp fun different same => different (Option.some.inj same))
  have known : ∀ glyph ∈ measured, (PageOrientation.ofGlyphs options measured).bandOf? glyph ∈
      (replays.map Replay.band).map some := by
    intro glyph _
    obtain ⟨replay, member, given⟩ := again.exists_replay glyph
    rw [given]
    exact List.mem_map_of_mem (List.mem_map_of_mem member)
  have shared := perm_flatMap_filter _ keys known
  rw [List.flatMap_map, List.flatMap_map] at shared
  exact shared

/-- **Every glyph is in one run.** The texts of all runs are those of the measured glyphs. -/
theorem runs_perm (again : ShowAgain (.ofGlyphs options measured) measured replays) :
    ((replays.flatMap (PageLayout.run options (.ofGlyphs options measured) mediaBox cropBox)).map
      PlacedGlyph.text).Perm (measured.map GlyphEvent.shownText) := by
  have runs : (replays.flatMap
      (PageLayout.run options (.ofGlyphs options measured) mediaBox cropBox)).map PlacedGlyph.text =
        (replays.flatMap fun replay => (PageOrientation.ofGlyphs options measured).inBand measured
          replay.band).map GlyphEvent.shownText := by
    rw [List.map_flatMap, List.map_flatMap]
    refine List.flatMap_congr fun replay member =>
      (Views.forall₂_map_eq ?_ (again.run replay member)).symm
    exact fun glyph placed shows => shows.choose_spec.2.2.symm
  rw [runs]
  exact again.flatMap_perm.map _

/-- The glyphs without text are counted once each. -/
theorem unmapped (again : ShowAgain (.ofGlyphs options measured) measured replays) :
    (PageLayout.ofReplays options (.ofGlyphs options measured) mediaBox cropBox replays).unmapped =
      GlyphEvent.unmapped measured := by
  have count (glyphs : List (GlyphEvent α)) : glyphs.countP (fun glyph => glyph.unicode?.isNone) =
      (glyphs.map GlyphEvent.unicode?).countP Option.isNone := by
    rw [List.countP_map]
    rfl
  have whole : GlyphEvent.unmapped measured = measured.countP fun glyph => glyph.unicode?.isNone :=
    List.countP_congr fun glyph _ => by rw [decide_eq_true_iff, Option.isNone_iff_eq_none]
  rw [whole]
  rw [PageLayout.ofReplays_unmapped, ← again.flatMap_perm.countP_eq, List.countP_flatMap,
    List.countP_flatMap]
  congr 1
  apply List.map_congr_left
  intro replay member
  have texts := Views.forall₂_map_eq (fun glyph glyph' (same : GlyphEvent.Same glyph glyph') =>
    same.unicode) (again.ofBand replay member)
  dsimp only [Function.comp]
  rw [count, count, texts]

end Replay.ShowAgain

end PlacedText
