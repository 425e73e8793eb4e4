import PlacedText.Proofs.Document.Arithmetic

/-! # The stages of processing a page

What a page went through when its processing succeeds: it is set up, measured, replayed once for
each orientation and straightened, and its outcome is made of what these stages came to.
-/

namespace PlacedText

open Effect

/-- A page that is interpreted has an object, and neither a fault nor a font ended it. -/
theorem PagedStore.interpret_eq_ok {paged : PagedStore} {options : ExtractOptions} {index : Nat}
    {recording : Recording Float} (ended : paged.interpret options index = .ok recording) :
    ∃ page, paged.pageId index = .ok page ∧
      paged.store.interpret options page = (recording, none) ∧ recording.abort? = none := by
  unfold PagedStore.interpret at ended
  cases found : paged.pageId index with
  | error fault =>
    rw [found] at ended
    cases ended
  | ok page =>
    refine ⟨page, rfl, ?_⟩
    rw [found] at ended
    obtain ⟨unended, whole, rfl⟩ := Recording.ended_eq_ok ended
    exact ⟨Prod.ext rfl whole, unended⟩

/-- Conversely, a page with an object that nothing ends is interpreted. -/
theorem PagedStore.interpret_of_pageId {paged : PagedStore} {options : ExtractOptions}
    {index page : Nat} {recording : Recording Float} (id : paged.pageId index = .ok page)
    (whole : paged.store.interpret options page = (recording, none))
    (unended : recording.abort? = none) : paged.interpret options index = .ok recording := by
  unfold PagedStore.interpret
  rw [id]
  dsimp only [bind, Except.bind]
  rw [whole]
  exact Recording.ended_of_none unended none

namespace PageEdit

variable {β : Type} {before after : PagedStore}

/-- A question leaves the document as it is. -/
theorem read_eq_ok {question : PagedStore → Except ReadFault β} {answer : β}
    (ended : read question before = .ok answer after) :
    question before = .ok answer ∧ after = before := by
  unfold read at ended
  split at ended
  · next found =>
    cases ended
    exact ⟨found, rfl⟩
  · cases ended

theorem orElseDo_of_ok {action : PageEdit β} {recover : PageEdit Unit} {answer : β}
    (ended : action before = .ok answer after) :
    orElseDo action recover before = .ok answer after := by
  unfold orElseDo
  rw [ended]

/-- What failed has failed still, whatever what is done about it comes to. -/
theorem orElseDo_of_error {action : PageEdit β} {recover : PageEdit Unit} {fault : ReadFault}
    (failed : action before = .error fault after) :
    orElseDo action recover before = .error fault (finalState (recover after)) := by
  unfold orElseDo
  rw [failed]
  dsimp only
  cases recover after with
  | ok => rfl
  | error => rfl

/-- An action that succeeds with its recovery has succeeded by itself, since the recovery ends in
the fault of the action or its own. -/
theorem orElseDo_eq_ok {action : PageEdit β} {recover : PageEdit Unit} {answer : β}
    (ended : orElseDo action recover before = .ok answer after) :
    action before = .ok answer after := by
  unfold orElseDo at ended
  split at ended
  · next done =>
    cases ended
    exact done
  · split at ended
    · cases ended
    · cases ended

end PageEdit

namespace Arithmetic

variable {α : Type} [Scalar α] {arithmetic : Arithmetic α} {options : ProcessOptions α}
  {index : Nat} {before after : PagedStore}

/-- The measuring pass, the replays, and what is made of them, in any arithmetic. -/
theorem extract_eq_ok {mediaBox cropBox : Rect α} {text : PageText α} {decision : DeskewDecision α}
    {warnings : List Warning}
    (ended : arithmetic.extract options index mediaBox cropBox before =
      .ok (text, decision, warnings) after) :
    ∃ (measured : Recording α) (replays : List (Replay α)),
      before.interpretInstead none options.extract index = .ok measured ∧
      PageLayout.replays (PageOrientation.ofGlyphs options measured.glyphs.toList)
        (arithmetic.turnedGlyphs options.extract index cropBox.centre) before =
          .ok replays after ∧
      text = (PageLayout.ofReplays options (PageOrientation.ofGlyphs options measured.glyphs.toList)
        mediaBox cropBox replays).text.finish options.separators ∧
      decision = (PageOrientation.ofGlyphs options measured.glyphs.toList).decision ∧
      warnings = (measured.warnings.toList ++ (PageEdit.unmappedWarning? options.extract
        (PageLayout.ofReplays options (PageOrientation.ofGlyphs options measured.glyphs.toList)
          mediaBox cropBox replays).unmapped).toList).map fun warning => warning.onPage index := by
  obtain ⟨measured, between, first, rest⟩ := bind_eq_ok ended
  obtain ⟨interpreted, rfl⟩ := PageEdit.read_eq_ok first
  obtain ⟨replays, last, replayed, rest⟩ := bind_eq_ok rest
  cases rest
  exact ⟨measured, replays, interpreted, replayed, rfl, rfl, rfl⟩

/-- The stages of a page that is not skipped, in any arithmetic. -/
theorem processPage_eq_ok {outcome : Outcome α}
    (ended : arithmetic.processPage options index before = .ok outcome after) :
    ∃ (cropBox : Rect α) (rotation : Nat) (suspended? : Option (Option Object))
      (opened extracted : PagedStore) (decision : DeskewDecision α),
      before.mediaBox index = .ok outcome.mediaBox ∧ before.cropBox index = .ok cropBox ∧
      before.rotation index = .ok rotation ∧
      PageEdit.suspendRotation index rotation before = .ok suspended? opened ∧
      arithmetic.extract options index outcome.mediaBox cropBox opened =
        .ok (outcome.text, decision, outcome.warnings) extracted ∧
      arithmetic.straighten options index decision rotation suspended? extracted =
        .ok outcome.rotation after ∧
      outcome.deskewAngle = decision.measuredAngle := by
  obtain ⟨mediaBox, _, media, boxed⟩ := bind_eq_ok ended
  obtain ⟨media, rfl⟩ := PageEdit.read_eq_ok media
  obtain ⟨cropBox, _, crop, cropped⟩ := bind_eq_ok boxed
  obtain ⟨crop, rfl⟩ := PageEdit.read_eq_ok crop
  obtain ⟨rotation, _, turned, settled⟩ := bind_eq_ok cropped
  obtain ⟨turned, rfl⟩ := PageEdit.read_eq_ok turned
  obtain ⟨suspended?, opened, suspended, set⟩ := bind_eq_ok settled
  obtain ⟨⟨text, decision, warnings⟩, extracted, extraction, placed⟩ := bind_eq_ok set
  obtain ⟨final, last, straightened, rest⟩ := bind_eq_ok placed
  cases rest
  exact ⟨cropBox, rotation, suspended?, opened, extracted, decision, media, crop, turned,
    suspended, PageEdit.orElseDo_eq_ok extraction, straightened, rfl⟩

end Arithmetic

namespace PageEdit

variable {before after : PagedStore}

/-- The measuring pass, the replays, and what is made of them. -/
theorem extract_eq_ok {options : ProcessOptions Float} {index : Nat} {mediaBox cropBox : Rect Float}
    {text : PageText Float} {decision : DeskewDecision Float} {warnings : List Warning}
    (ended : extract options index mediaBox cropBox before = .ok (text, decision, warnings) after) :
    ∃ (measured : Recording Float) (replays : List (Replay Float)),
      before.interpret options.extract index = .ok measured ∧
      PageLayout.replays (PageOrientation.ofGlyphs options measured.glyphs.toList)
        (turnedGlyphs options.extract index cropBox.centre) before = .ok replays after ∧
      text = (PageLayout.ofReplays options (PageOrientation.ofGlyphs options measured.glyphs.toList)
        mediaBox cropBox replays).text.finish options.separators ∧
      decision = (PageOrientation.ofGlyphs options measured.glyphs.toList).decision ∧
      warnings = (measured.warnings.toList ++ (unmappedWarning? options.extract
        (PageLayout.ofReplays options (PageOrientation.ofGlyphs options measured.glyphs.toList)
          mediaBox cropBox replays).unmapped).toList).map fun warning => warning.onPage index := by
  rw [← Arithmetic.extract_double] at ended
  have stages := Arithmetic.extract_eq_ok ended
  simpa only [PagedStore.interpretInstead_none, Arithmetic.turnedGlyphs_double] using stages

/-- The stages of a page that is not skipped. -/
theorem processPage_eq_ok {options : ProcessOptions Float} {index : Nat} {outcome : PageOutcome}
    (ended : processPage options index before = .ok outcome after) :
    ∃ (setup : PageSetup) (opened extracted : PagedStore) (decision : DeskewDecision Float),
      setUp index before = .ok setup opened ∧
      extract options index setup.mediaBox setup.cropBox opened =
        .ok (outcome.text, decision, outcome.warnings) extracted ∧
      straighten options index decision setup.rotation setup.suspended? extracted =
        .ok outcome.rotation after ∧
      outcome.mediaBox = setup.mediaBox ∧ outcome.deskewAngle = decision.measuredAngle := by
  obtain ⟨setup, opened, first, rest⟩ := bind_eq_ok ended
  obtain ⟨⟨text, decision, warnings⟩, extracted, second, rest⟩ := bind_eq_ok rest
  obtain ⟨rotation, last, third, rest⟩ := bind_eq_ok rest
  cases rest
  exact ⟨setup, opened, extracted, decision, first, orElseDo_eq_ok second, third, rfl, rfl⟩

end PageEdit

namespace PagedStore

/-- What processing any page keeps, processing pages one after the other does. -/
theorem foldl_extractNext_keeps {holds : PagedStore → Prop} {options : ProcessOptions Float}
    (kept : ∀ index, Keeps holds (PageEdit.processPage options index))
    (progress : PagedStore × Extraction) (indices : List Nat) (held : holds progress.1) :
    holds (indices.foldl (extractNext options) progress).1 := by
  induction indices generalizing progress with
  | nil => exact held
  | cons index indices ih =>
    apply ih
    unfold extractNext
    split
    · next outcome paged ended => exact (kept index).ok held ended
    · next fault paged ended => exact (kept index).error held ended

end PagedStore

end PlacedText
