import PlacedText.Proofs.Document.Straightened
import PlacedText.Proofs.Drawing.SafeFonts

/-! # Pages that are processed

A page is skipped only for what it is: one that is found with its boxes, and whose content is read,
draws no external objects and has fewer operators than a page may have, is processed in exact
arithmetic with any settings (`Rounding.processPage_succeeds`).
-/

namespace PlacedText

open Effect PagedStore

variable {α : Type} [Scalar α]

/-- Whether a page can be drawn behind one more transform: its content is read, draws no external
objects and has fewer operators than a page may have, and none of its fonts ends the program. -/
def Store.IsDrawable (α : Type) [Scalar α] (store : Store) (options : ExtractOptions)
    (page : Nat) : Prop :=
  ∃ (content : Bytes) (resources : Dictionary) (operators : List (Operator α)),
    store.pageContent page = .ok content ∧ store.pageResources page = .ok resources ∧
    Interpreter.operators content = .ok operators ∧
    (∀ operator ∈ operators, operator.name ≠ "Do") ∧ operators.length < options.maxOperators ∧
    ∀ name, (Interpreter.fontNamed ⟨store, options⟩ resources name : Font α).IsSafe

/-- A page that can be drawn is drawn in any document that shows it again. At most one operator is
in front of its own, for which there is room, and neither draws an object; its fonts are safe here
as they are there. -/
theorem PagedStore.Redrawn.interpretInstead_succeeds {first second : PagedStore} {index page : Nat}
    {t? : Option (Transform α)} {options : ExtractOptions}
    (redrawn : first.Redrawn second index page t?)
    (drawable : first.store.IsDrawable α options page) :
    ∃ recording, second.interpretInstead t? options index = .ok recording := by
  obtain ⟨content, resources, operators, found, shown, read, plain, few, safe⟩ := drawable
  obtain ⟨content', operators', found', read', instead⟩ :=
    redrawn.behind content operators found read
  obtain ⟨resources', shown', held, same⟩ := redrawn.alike.pageResources shown
  rw [Interpreter.fontNamed_mirrored (Interpreter.mirrors_of_alike redrawn.alike options)
    ⟨held, same⟩] at safe
  have front : ∀ operator ∈ (t?.map Operator.concat).toList ++ operators,
      operator.name ≠ "Do" := by
    intro operator member
    rcases List.mem_append.mp member with first | rest
    · obtain ⟨t, -, rfl⟩ := Option.map_eq_some_iff.mp (Option.mem_toList.mp first)
      exact (by decide : "cm" ≠ "Do")
    · exact plain operator rest
  have bounded : (Recording.start (.identity : Transform α)).executed +
      ((t?.map Operator.concat).toList ++ operators).length ≤ options.maxOperators := by
    have one : (t?.map Operator.concat).toList.length ≤ 1 := by cases t? <;> simp
    rw [List.length_append]
    change 0 + _ ≤ _
    omega
  obtain ⟨recording, ran⟩ := Interpreter.runOperators_succeeds ⟨second.store, options⟩
    (Interpreter.runStream ⟨second.store, options⟩ options.maxDepth) resources' 0 ∅ _
    (.start .identity) front bounded
  have unended := Interpreter.unended_of_safe _ options.maxDepth front safe
  rw [ran] at unended
  refine ⟨recording, ?_⟩
  unfold PagedStore.interpretInstead
  rw [redrawn.there]
  dsimp only [bind, Except.bind]
  rw [Interpreter.runPageInstead_of_operators found' shown' read', instead, ran]
  exact Recording.ended_of_none unended none

namespace Rounding

variable (rounding : Rounding) {options : ProcessOptions ℝ} {index page at' : Nat}
  {entries : Dictionary} {paged opened : PagedStore}

/-- Every replay of a page that can be drawn succeeds, as it stands or behind the transform of its
angle, and leaves the same document. -/
theorem turnedGlyphs_succeeds {options : ExtractOptions} (orderly : opened.Orderly)
    (found : opened.PageAt index page at' entries)
    (drawable : opened.store.IsDrawable ℝ options page) (centre : Point ℝ) (angle : ℝ) :
    Succeeds (·.SameDocument opened)
      (rounding.exact.turnedGlyphs options index centre angle) := by
  intro before same
  have turned := (Turned.refl found).sameDocument same
  have kept := rounding.exact.turnedGlyphs_keeps options index centre angle opened
  suffices succeeds : ∃ glyphs after,
      rounding.exact.turnedGlyphs options index centre angle before = .ok glyphs after by
    obtain ⟨glyphs, after, ended⟩ := succeeds
    exact ⟨glyphs, after, ended, kept.ok same ended⟩
  unfold Arithmetic.turnedGlyphs
  dsimp only
  split
  · obtain ⟨recording, shown⟩ := (turned.redrawn orderly).interpretInstead_succeeds drawable
    exact ⟨_, _, bind_of_ok (PageEdit.read_of_ok shown)⟩
  · have put := turned.redrawn_prepended orderly (same.orderly orderly)
      (rounding.finite_of_mem_written (.rotationAbout (-angle) centre))
      (.rotationAbout (-angle) centre)
    obtain ⟨recording, shown⟩ := put.interpretInstead_succeeds drawable
    unfold PageEdit.underTransform
    rw [PageEdit.prepend_of_pageAt turned.there]
    dsimp only
    rw [bind_of_ok (PageEdit.read_of_ok shown)]
    exact ⟨_, _, rfl⟩

/-- So does measuring it and replaying it for every orientation. -/
theorem extract_succeeds (orderly : opened.Orderly) (found : opened.PageAt index page at' entries)
    (drawable : opened.store.IsDrawable ℝ options.extract page) (mediaBox cropBox : Rect ℝ) :
    ∃ text decision warnings extracted,
      rounding.exact.extract options index mediaBox cropBox opened =
        .ok (text, decision, warnings) extracted ∧ extracted.SameDocument opened := by
  obtain ⟨measured, shown⟩ :=
    ((Turned.refl found).redrawn orderly).interpretInstead_succeeds drawable
  have replayed : Succeeds (·.SameDocument opened) (PageLayout.replays
      (.ofGlyphs options measured.glyphs.toList)
      (rounding.exact.turnedGlyphs options.extract index cropBox.centre)) := by
    unfold PageLayout.replays
    refine Succeeds.mapM (fun (angle, _) => ?_) _
    exact (rounding.turnedGlyphs_succeeds orderly found drawable cropBox.centre angle).bind
      fun _ => succeeds_pure _
  obtain ⟨replays, extracted, ended, same⟩ := replayed opened (SameDocument.refl opened)
  unfold Arithmetic.extract
  rw [bind_of_ok (PageEdit.read_of_ok shown)]
  exact ⟨_, _, _, extracted, bind_of_ok ended, same⟩

/-- **A page that is found and can be drawn is processed.** -/
theorem processPage_succeeds {mediaBox cropBox : Rect ℝ} {before : Nat}
    {suspended? : Option (Option Object)} (orderly : paged.Orderly)
    (media : paged.mediaBox index = .ok mediaBox) (crop : paged.cropBox index = .ok cropBox)
    (turned : paged.rotation index = .ok before)
    (suspended : PageEdit.suspendRotation index before paged = .ok suspended? opened)
    (found : opened.PageAt index page at' entries)
    (drawable : opened.store.IsDrawable ℝ options.extract page) :
    ∃ outcome after, rounding.exact.processPage options index paged = .ok outcome after := by
  have openedOrderly := (PageEdit.suspendRotation_orderly index before).ok orderly suspended
  obtain ⟨text, decision, warnings, extracted, ended, same⟩ :=
    rounding.extract_succeeds openedOrderly found drawable mediaBox cropBox
  obtain ⟨_, _, _, here⟩ := pageAt_of_rotation turned
  obtain ⟨_, -, straightened⟩ :=
    rounding.exact.straighten_eq here crop suspended same options decision
  unfold Arithmetic.processPage
  rw [bind_of_ok (PageEdit.read_of_ok media), bind_of_ok (PageEdit.read_of_ok crop),
    bind_of_ok (PageEdit.read_of_ok turned), bind_of_ok suspended,
    bind_of_ok (PageEdit.orElseDo_of_ok ended)]
  exact ⟨_, _, bind_of_ok straightened⟩

end Rounding

end PlacedText
