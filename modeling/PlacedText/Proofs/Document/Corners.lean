import PlacedText.Proofs.Document.Processed
import PlacedText.Proofs.Document.Replays
import Mathlib

/-! # Boxes are those of the page as it is left

The boxes of glyphs are recorded while a page is turned for each orientation of its text, and the
page is straightened only then. In exact arithmetic they are nevertheless the boxes of the page as
it is left in the document, whatever angle a glyph was replayed at (`PagedStore.extract_as_left`).
-/

namespace PlacedText

open Effect PagedStore

namespace Arithmetic

/-- What a page comes to if its boxes are those of the page as it is left in the document. -/
structure Outcome.AsLeft (outcome : Outcome ℝ) (rounding : Rounding) (options : ProcessOptions ℝ)
    (index : Nat) (cropBox : Rect ℝ) (measured : Recording ℝ) (orientation : PageOrientation ℝ)
    (replays : List (Replay ℝ)) (opened after : PagedStore) : Prop where
  /-- Each orientation is replayed once, turned by its angle. -/
  replayed : replays.map (fun replay => (replay.angle, replay.band)) = orientation.descending
  /-- Whatever the angle of a replay, its corners are those that were measured, corrected. -/
  corners : ∀ replay ∈ replays, replay.glyphs.map (PageLayout.frame options orientation
    outcome.mediaBox cropBox replay.angle).outputCorners =
      orientation.correctedCorners options cropBox.centre measured.glyphs.toList
  /-- Without a correction they are those that were measured. -/
  uncorrected : options.deskew = false ∨ orientation.decision.reliable = false →
    orientation.correctedCorners options cropBox.centre measured.glyphs.toList =
      measured.glyphs.toList.map (GlyphEvent.corners options.boxPolicy)
  /-- Each glyph of a run is recorded with the box around its corrected corners. -/
  boxes : ∀ replay ∈ replays, List.Forall₂ (fun glyph placed =>
    (PageLayout.frame options orientation outcome.mediaBox cropBox replay.angle).box?
      ((glyph.corners options.boxPolicy).map
        (orientation.correction options cropBox.centre).apply) = some placed.outputBox)
    (orientation.inBand measured.glyphs.toList replay.band)
    (PageLayout.run options orientation outcome.mediaBox cropBox replay)
  /-- The text is laid out of these runs. -/
  text : outcome.text =
    ((replays.map (PageLayout.run options orientation outcome.mediaBox cropBox)).foldl
      (fun (text : PageText ℝ) glyphs => text.pushRun options.layout glyphs) .empty).finish
        options.separators
  /-- The page is left behind what is written for the correction, if there is one. -/
  stored : ∃ page, after.pageId index = .ok page ∧ opened.HasBehind after page
    ((orientation.left? options cropBox.centre).map rounding.exact.written)
  /-- The page as it is left shows the same corners, unless it has too many operators now. -/
  shown :
    (∃ left : Recording ℝ, after.interpretInstead (orientation.left? options cropBox.centre)
      options.extract index = .ok left ∧
        left.glyphs.toList.map (GlyphEvent.corners options.boxPolicy) =
          orientation.correctedCorners options cropBox.centre measured.glyphs.toList) ∨
    ∃ executed, after.interpretInstead (orientation.left? options cropBox.centre)
      options.extract index = .error (.process (.limitExceeded "max_operators_per_page"
        options.extract.maxOperators executed))

end Arithmetic

/-- A page that is drawn behind its correction shows the corrected corners. -/
theorem PagedStore.Redrawn.shows_corrected {first second : PagedStore} {index page : Nat}
    {options : ProcessOptions ℝ} {orientation : PageOrientation ℝ} {centre : Point ℝ}
    {measured : Recording ℝ}
    (redrawn : first.Redrawn second index page (orientation.left? options centre))
    (interpreted : first.interpretInstead none options.extract index = .ok measured) :
    (∃ left : Recording ℝ, second.interpretInstead (orientation.left? options centre)
      options.extract index = .ok left ∧
        left.glyphs.toList.map (GlyphEvent.corners options.boxPolicy) =
          orientation.correctedCorners options centre measured.glyphs.toList) ∨
    ∃ executed, second.interpretInstead (orientation.left? options centre) options.extract index =
      .error (.process (.limitExceeded "max_operators_per_page" options.extract.maxOperators
        executed)) := by
  rcases redrawn.interpretInstead interpreted with
    ⟨left, again, moved⟩ | ⟨fault, failed, executed, rfl⟩
  · rw [PageOrientation.getD_left] at moved
    exact Or.inl ⟨left, again, PageOrientation.map_corners moved⟩
  · exact Or.inr ⟨executed, failed⟩

namespace PagedStore

/-- **The boxes of a page are those of the page as it is left.** Whatever pages of an orderly
document were processed before, the corners of the glyphs of a page that is not skipped are those
that were measured, with the skew taken out if the page is straightened. They do not depend on the
angle of a replay, and are the corners that the page shows as it is left. -/
theorem extract_as_left (rounding : Rounding) (paged : PagedStore) (options : ProcessOptions ℝ)
    (orderly : paged.Orderly) (processed : List Nat) {index : Nat}
    {outcome : Arithmetic.Outcome ℝ} {after : PagedStore}
    (ended : rounding.exact.processPage options index
      (rounding.exact.leave options paged processed) = .ok outcome after) :
    ∃ (cropBox : Rect ℝ) (rotation : Nat) (suspended? : Option (Option Object))
      (opened : PagedStore) (measured : Recording ℝ) (replays : List (Replay ℝ)),
      (rounding.exact.leave options paged processed).cropBox index = .ok cropBox ∧
      (rounding.exact.leave options paged processed).rotation index = .ok rotation ∧
      PageEdit.suspendRotation index rotation (rounding.exact.leave options paged processed) =
        .ok suspended? opened ∧
      opened.interpretInstead none options.extract index = .ok measured ∧
      outcome.AsLeft rounding options index cropBox measured
        (.ofGlyphs options measured.glyphs.toList) replays opened after := by
  have before := rounding.exact.leave_orderly options orderly processed
  obtain ⟨cropBox, rotation, suspended?, opened, extracted, _, -, crop, turned, suspended,
    extraction, straightened, -⟩ := Arithmetic.processPage_eq_ok ended
  obtain ⟨measured, replays, interpreted, replayed, text, rfl, -⟩ :=
    Arithmetic.extract_eq_ok extraction
  have openedOrderly := (PageEdit.suspendRotation_orderly index rotation).ok before suspended
  have same := (rounding.exact.extract_keeps options index outcome.mediaBox cropBox opened).ok
    (SameDocument.refl opened) extraction
  have views := rounding.replays_moved openedOrderly interpreted replayed
  obtain ⟨page, at', entries, found⟩ := pageAt_of_rotation turned
  obtain ⟨redrawn, behind⟩ :=
    rounding.redrawn_of_straighten before found crop suspended same straightened
  refine ⟨cropBox, rotation, suspended?, opened, measured, replays, crop, turned, suspended,
    interpreted, ?_⟩
  exact {
    replayed := views.entries
    corners := fun replay member => PageLayout.map_outputCorners (views.glyphs replay member)
    uncorrected := fun kept => PageOrientation.correctedCorners_of_not kept _ _
    boxes := fun replay member => PageLayout.forall₂_run (views.glyphs replay member)
    text := by
      rw [text, PageLayout.ofReplays_text]
    stored := ⟨page, redrawn.there, behind⟩
    shown := redrawn.shows_corrected interpreted }

/-- A document of one page with slanted text. -/
def ofSlantedPage : PagedStore := ofWrittenPage [] slantedText

theorem ofSlantedPage_orderly : ofSlantedPage.Orderly := by
  refine ofWrittenPage_orderly (fun id held => ?_) slantedText
  rcases held.of_entries rfl with same | ⟨_, _, member, _⟩
  · cases same
  · cases member

/-- A slanted text is straightened. -/
theorem extract_as_left_of_slanted_page :
    let options : ProcessOptions ℝ := { ProcessOptions.standard with deskew := true }
    let rounding := Rounding.toNearest
    let before := rounding.exact.leave options ofSlantedPage []
    ofSlantedPage.Orderly ∧ ∃ (outcome : Arithmetic.Outcome ℝ) (after : PagedStore),
      rounding.exact.processPage options 0 before = .ok outcome after ∧
      ∃ (cropBox : Rect ℝ) (rotation : Nat) (suspended? : Option (Option Object))
        (opened : PagedStore) (measured : Recording ℝ) (replays : List (Replay ℝ)),
        before.cropBox 0 = .ok cropBox ∧ before.rotation 0 = .ok rotation ∧
        PageEdit.suspendRotation 0 rotation before = .ok suspended? opened ∧
        opened.interpretInstead none options.extract 0 = .ok measured ∧
        outcome.AsLeft rounding options 0 cropBox measured
          (.ofGlyphs options measured.glyphs.toList) replays opened after := by
  intro options rounding before
  let upright := ofSlantedPage.putDictionary 1 (writtenPage.set "Rotate" (.integer 0))
  have found : upright.PageAt 0 1 1 (writtenPage.set "Rotate" (.integer 0)) := ⟨rfl, rfl⟩
  have media : ∃ box, (ofSlantedPage.mediaBox 0 : Except ReadFault (Rect ℝ)) = .ok box := ⟨_, rfl⟩
  have crop : ∃ box, (ofSlantedPage.cropBox 0 : Except ReadFault (Rect ℝ)) = .ok box := ⟨_, rfl⟩
  have turned : ofSlantedPage.rotation 0 = .ok 90 := rfl
  have suspended : PageEdit.suspendRotation 0 90 ofSlantedPage =
      .ok (some (some (.integer 90))) upright := rfl
  have drawable : upright.store.IsDrawable ℝ options.extract 1 := by
    refine ⟨slantedText, [(Text.Utf8.encode "Font", .reference 2)],
      slantedOperators.map (Operator.map Numeral.value), rfl, rfl, operators_slantedText, ?_,
      by decide, Font.fallback_isSafe⟩
    simp [slantedOperators, Operator.map]
  obtain ⟨mediaBox, media⟩ := media
  obtain ⟨cropBox, crop⟩ := crop
  obtain ⟨outcome, after, ended⟩ := rounding.processPage_succeeds ofSlantedPage_orderly media crop
    turned suspended found drawable
  exact ⟨ofSlantedPage_orderly, outcome, after, ended,
    extract_as_left rounding ofSlantedPage options ofSlantedPage_orderly [] ended⟩

end PagedStore

end PlacedText
