import PlacedText.Proofs.Document.Orderly
import PlacedText.Proofs.Page.Corners

/-! # What a page shows once it is straightened

In exact arithmetic the stages of processing a page show the glyphs that were measured: each replay
shows them turned by its angle (`Rounding.turnedGlyphs_moved`), and the page as it is left shows
them with the skew taken out (`Rounding.redrawn_of_straighten`).
-/

namespace PlacedText

open Effect PagedStore

/-! ## Rounding -/

/-- What is written for a transform are finite doubles. -/
theorem Rounding.finite_of_mem_written (rounding : Rounding) (t : Transform ℝ) :
    ∀ x ∈ (rounding.exact.written t).toList, Scalar.isFinite x = true := by
  intro x member
  change x ∈ t.toList.map rounding.nearest at member
  obtain ⟨y, -, rfl⟩ := List.mem_map.mp member
  exact rounding.finite y

/-! ## Replays -/

/-- **A replay shows the glyphs that were measured, turned as a whole.** Their transforms are
followed by the turn about the centre of the page, which is the identity for a band that is not
turned. -/
theorem Rounding.turnedGlyphs_moved (rounding : Rounding) {opened before after : PagedStore}
    {options : ExtractOptions} {index : Nat} {measured : Recording ℝ} {centre : Point ℝ} {angle : ℝ}
    {glyphs : List (GlyphEvent ℝ)} (orderly : opened.Orderly) (same : before.SameDocument opened)
    (interpreted : opened.interpretInstead none options index = .ok measured)
    (replayed : rounding.exact.turnedGlyphs options index centre angle before =
      .ok glyphs after) :
    List.Forall₂ (GlyphEvent.Related (Transform.rotationAbout (-angle) centre).IsFollowedBy)
      measured.glyphs.toList glyphs := by
  obtain ⟨page, at', entries, found⟩ := pageAt_of_interpretInstead interpreted
  have turned := (Turned.refl found).sameDocument same
  have moved {second : PagedStore} {t? : Option (Transform ℝ)} {recording : Recording ℝ}
      (redrawn : opened.Redrawn second index page t?)
      (ended : second.interpretInstead t? options index = .ok recording) :
      List.Forall₂ (GlyphEvent.Related (t?.getD .identity).IsFollowedBy) measured.glyphs.toList
        recording.glyphs.toList := by
    rcases redrawn.interpretInstead interpreted with ⟨again, ended', shown⟩ | ⟨_, failed, _⟩
    · cases ended.symm.trans ended'
      exact shown
    · cases ended.symm.trans failed
  unfold Arithmetic.turnedGlyphs at replayed
  split at replayed
  · next upright =>
    obtain ⟨recording, between, shown, rest⟩ := bind_eq_ok replayed
    cases rest
    obtain ⟨ended, _⟩ := PageEdit.read_eq_ok shown
    have zero : angle = 0.0 := of_decide_eq_true upright
    have still : -angle = 0 := by
      rw [zero]
      norm_num
    rw [still, Transform.rotationAbout_zero]
    exact moved (turned.redrawn orderly) ended
  · unfold PageEdit.underTransform at replayed
    dsimp only at replayed
    rw [PageEdit.prepend_of_pageAt turned.there] at replayed
    dsimp only at replayed
    split at replayed
    · next answer last shown =>
      cases replayed
      obtain ⟨recording, between, shown, rest⟩ := bind_eq_ok shown
      cases rest
      obtain ⟨ended, _⟩ := PageEdit.read_eq_ok shown
      exact moved (turned.redrawn_prepended orderly (same.orderly orderly)
        (rounding.finite_of_mem_written _) _) ended
    · cases replayed

/-- Each replay shows the glyphs that were measured, turned by its angle. -/
theorem Rounding.replays_moved (rounding : Rounding) {opened after : PagedStore}
    {options : ExtractOptions} {index : Nat} {measured : Recording ℝ} {centre : Point ℝ}
    {orientation : PageOrientation ℝ} {replays : List (Replay ℝ)} (orderly : opened.Orderly)
    (interpreted : opened.interpretInstead none options index = .ok measured)
    (replayed : PageLayout.replays orientation (rounding.exact.turnedGlyphs options index centre)
      opened = .ok replays after) :
    Replay.Views (fun angle => List.Forall₂ (GlyphEvent.Related
      (Transform.rotationAbout (-angle) centre).IsFollowedBy) measured.glyphs.toList) orientation
        replays := by
  apply Replay.views_of_replays (·.SameDocument opened) ?kept ?shown (SameDocument.refl opened)
    replayed
  case kept =>
    exact fun angle => rounding.exact.turnedGlyphs_keeps options index centre angle opened
  case shown =>
    intro angle before glyphs last same turned
    exact rounding.turnedGlyphs_moved orderly same interpreted turned

/-! ## Straightening -/

/-- Whether the content of a page is what it was, behind the operator of a transform if there is
one. -/
def PagedStore.HasBehind (first second : PagedStore) (page : Nat)
    (written? : Option (Transform Float)) : Prop :=
  ∀ content, first.store.pageContent page = .ok content →
    ∃ blanks : Bytes, (∀ b ∈ blanks, b = 0x20) ∧ second.store.pageContent page =
      .ok ((written?.map fun t => Text.Utf8.encode t.operatorText).getD [] ++ blanks ++ content)

theorem PagedStore.Turned.hasBehind_prepended {first second : PagedStore} {index page at' : Nat}
    {entries entries' : Dictionary} (turned : first.Turned second index page at' entries entries')
    (orderly : second.Orderly) (t : Transform Float) :
    first.HasBehind (second.prepended at' entries' t) page (some t) := by
  intro content read
  rw [Option.map_some, Option.getD_some]
  exact pageContent_prepended turned.there orderly.closed (.refl second) t
    (turned.pageContent read)

/-- The transform that a page is left behind, if it is straightened and skewed. -/
def PageOrientation.left? {α : Type} [Scalar α] (options : ProcessOptions α)
    (orientation : PageOrientation α) (centre : Point α) : Option (Transform α) :=
  let skew := orientation.decision.correctedSkew options.deskew
  if skew != 0.0 then some (.rotationAbout (-skew) centre) else none

/-- The transform that a page is left behind is the correction, or none where there is nothing to
correct. -/
theorem PageOrientation.getD_left {options : ProcessOptions ℝ} {orientation : PageOrientation ℝ}
    (centre : Point ℝ) :
    (orientation.left? options centre).getD .identity = orientation.correction options centre := by
  unfold left?
  rw [correction_eq]
  dsimp only
  split
  · rfl
  · next none =>
    have zero : orientation.decision.correctedSkew options.deskew = 0.0 := by
      simpa using none
    have still : -orientation.decision.correctedSkew options.deskew = 0 := by
      rw [zero]
      norm_num
    rw [still, Transform.rotationAbout_zero]
    rfl

/-- **A page that is straightened shows the glyphs that were measured, without their skew.** -/
theorem Rounding.redrawn_of_straighten (rounding : Rounding) {options : ProcessOptions ℝ}
    {orientation : PageOrientation ℝ} {index before rotation page at' : Nat} {entries : Dictionary}
    {suspended? : Option (Option Object)} {paged opened extracted after : PagedStore}
    {cropBox : Rect ℝ} (orderly : paged.Orderly) (found : paged.PageAt index page at' entries)
    (crop : paged.cropBox index = .ok cropBox)
    (suspended : PageEdit.suspendRotation index before paged = .ok suspended? opened)
    (same : extracted.SameDocument opened)
    (straightened : rounding.exact.straighten options index orientation.decision before suspended?
      extracted = .ok rotation after) :
    opened.Redrawn after index page (orientation.left? options cropBox.centre) ∧
      opened.HasBehind after page
        ((orientation.left? options cropBox.centre).map rounding.exact.written) := by
  have openedOrderly := (PageEdit.suspendRotation_orderly index before).ok orderly suspended
  obtain ⟨own, upright, -, -⟩ := PageEdit.turned_of_suspendRotation found suspended
  obtain ⟨between, settled, ended⟩ :=
    rounding.exact.straighten_eq found crop suspended same options orientation.decision
  have turned := upright.symm.trans ((PageEdit.turned_settled found _ _).sameDocument settled)
  have settledOrderly := settled.orderly (PageEdit.settled_orderly orderly found _ _)
  cases straightened.symm.trans ended
  unfold PageOrientation.left?
  dsimp only
  split
  · refine ⟨turned.redrawn_prepended openedOrderly settledOrderly
      (rounding.finite_of_mem_written _) _, ?_⟩
    rw [Option.map_some]
    exact turned.hasBehind_prepended settledOrderly _
  · refine ⟨turned.redrawn openedOrderly, fun content read => ⟨[], by simp, ?_⟩⟩
    exact turned.pageContent read

end PlacedText
