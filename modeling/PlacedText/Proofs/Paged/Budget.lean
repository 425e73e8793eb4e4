import PlacedText.Proofs.Document.Corners
import PlacedText.Proofs.Drawing.SafeFonts
import PlacedText.Proofs.Paged.Twins

/-! # The operators of a page behind a transform

The operator of a transform that is put in front of the content of a page is counted with the
operators of the page. So a page is interpreted again behind a transform exactly when it has fewer
operators than are allowed (`PagedStore.interpret_underTransform`).
-/

namespace PlacedText

open Effect

/-! ## Courses one after the other -/

namespace Course

variable {α : Type} {first second : Course α}

theorem fault_andThen (ended : first.fault? = none) :
    (first.andThen second).fault? = second.fault? := by
  unfold andThen
  rw [ended]

end Course

namespace Interpreter

variable {α : Type} [Scalar α] {store other : Store} {options : ExtractOptions} {page : Nat}

/-- A page that is interpreted to its end has a course without a fault, of so many operators as were
executed. -/
theorem pageCourse_of_interpret {recording : Recording α}
    (ended : store.interpret options page = (recording, none)) :
    (pageCourse (α := α) ⟨store, options⟩ page).fault? = none ∧
      recording.executed = (pageCourse (α := α) ⟨store, options⟩ page).operators ∧
      recording.executed ≤ options.maxOperators := by
  rcases Nat.lt_or_ge options.maxOperators (pageCourse (α := α) ⟨store, options⟩ page).operators
    with exceeded | bounded
  · have failed := (Store.interpret_of_lt exceeded).1
    rw [ended] at failed
    cases failed
  · obtain ⟨fault, same⟩ := Store.interpret_of_le bounded
    rw [ended] at fault same
    have counted : recording.executed = (pageCourse (α := α) ⟨store, options⟩ page).operators := by
      rw [same.executed]
      exact (Recording.after_executed _ _ _).trans (Nat.zero_add _)
    exact ⟨fault.symm, counted, counted.trans_le bounded⟩

/-- A font ends the program on the whole course of a page if it ends the interpretation of it. -/
theorem pageCourse_abort {recording : Recording α}
    (ended : store.interpret options page = (recording, none)) :
    (Recording.ofSteps options.normalForm
      (pageCourse (α := α) ⟨store, options⟩ page).steps).abort? = recording.abort? := by
  obtain ⟨-, counted, bounded⟩ := pageCourse_of_interpret ended
  have same := (Store.interpret_of_le (counted.symm.trans_le bounded)).2
  rw [ended] at same
  exact same.abort.symm

/-- A page that reads as another one behind a transform has one operator more, and its fonts end the
program only if they do without the transform. -/
theorem pageCourse_behind (alike : store.Alike other) {content content' : Bytes}
    {resources : Dictionary} {operands : List (Operand Numeral)}
    {operators : List (Operator Numeral)}
    (read : store.pageContent page = .ok content) (found : store.pageResources page = .ok resources)
    (parsed : Content.operators content = .ok operators)
    (read' : other.pageContent page = .ok content')
    (parsed' : Content.operators content' = .ok (⟨"cm", operands⟩ :: operators)) :
    (pageCourse (α := α) ⟨other, options⟩ page).fault? =
        (pageCourse (α := α) ⟨store, options⟩ page).fault? ∧
      (pageCourse (α := α) ⟨other, options⟩ page).operators =
        1 + (pageCourse (α := α) ⟨store, options⟩ page).operators ∧
      ((Recording.ofSteps options.normalForm
          (pageCourse (α := α) ⟨store, options⟩ page).steps).abort? = none →
        (Recording.ofSteps options.normalForm
          (pageCourse (α := α) ⟨other, options⟩ page).steps).abort? = none) := by
  obtain ⟨resources', found', held, same⟩ := alike.pageResources found
  have mirrors := mirrors_of_alike (α := α) alike options
  have related : store.HoldsDictionary resources ∧ resources.SameElsewhere resources' :=
    ⟨held, same⟩
  have rest := operatorsCourse_mirrored mirrors (fun _ _ content related =>
    streamCourse_mirrored mirrors options.maxDepth related content) related
  have before : pageCourse (α := α) ⟨store, options⟩ page =
      operatorsCourse ⟨store, options⟩ (streamCourse ⟨store, options⟩ options.maxDepth) resources
        (operators.map (Operator.map Numeral.value)) := by
    unfold pageCourse
    simp only [read, found]
    unfold streamCourse Interpreter.operators
    rw [parsed]
    rfl
  have behind : pageCourse (α := α) ⟨other, options⟩ page =
      (operatorCourse ⟨other, options⟩ (streamCourse ⟨other, options⟩ options.maxDepth) resources'
        ⟨"cm", operands.map (Operand.map Numeral.value)⟩).andThen
          (pageCourse ⟨store, options⟩ page) := by
    rw [before, rest]
    unfold pageCourse
    simp only [read', found']
    unfold streamCourse Interpreter.operators
    rw [parsed']
    rfl
  obtain ⟨ended, one, -⟩ := operatorCourse_transform ⟨other, options⟩
    (streamCourse ⟨other, options⟩ options.maxDepth) resources'
    (operands.map (Operand.map (Numeral.value (α := α))))
  rw [behind, Course.operators_andThen, Course.fault_andThen ended, ended, one]
  exact ⟨rfl, rfl, abort_eq_none_of_transform _⟩

end Interpreter

namespace PageEdit

variable {β : Type} {paged left : PagedStore} {index page at' : Nat} {entries : Dictionary}
  {t : Transform Float} {action : PageEdit β}

open PagedStore

theorem underTransform_of_ok {answer : β} (found : paged.PageAt index page at' entries)
    (ended : action (paged.prepended at' entries t) = .ok answer left) :
    underTransform index t action paged = .ok answer
      (left.withdraw ⟨page, paged.store.maxId + 1, entries.find? "Contents"⟩) := by
  unfold underTransform
  rw [prepend_of_pageAt found]
  dsimp only
  rw [ended]

theorem underTransform_of_error {fault : ReadFault} (found : paged.PageAt index page at' entries)
    (failed : action (paged.prepended at' entries t) = .error fault left) :
    underTransform index t action paged = .error fault
      (left.withdraw ⟨page, paged.store.maxId + 1, entries.find? "Contents"⟩) := by
  unfold underTransform
  rw [prepend_of_pageAt found]
  dsimp only
  rw [failed]

end PageEdit

namespace PagedStore

variable {paged : PagedStore} {options : ExtractOptions} {index : Nat}
  {measured : Recording Float} {t : Transform Float}

/-- A page whose interpretation ends in a fault, without a font that ends it before, fails with that
fault. -/
theorem interpret_of_fault {page : Nat} {fault : ReadFault} (id : paged.pageId index = .ok page)
    (failed : (paged.store.interpret options page : Recording Float × Option ReadFault).2 =
      some fault)
    (unended : (paged.store.interpret options page : Recording Float × Option ReadFault).1.abort? =
      none) : paged.interpret options index = .error fault := by
  unfold PagedStore.interpret
  rw [id]
  dsimp only [bind, Except.bind]
  rw [failed, Recording.ended_of_none unended]
  rfl

/-- A page behind a transform has the course of the page, and one operator more. No font ends the
program on it if none did without the transform. -/
theorem PageAt.pageCourse_prepended {page at' : Nat} {entries : Dictionary}
    (found : paged.PageAt index page at' entries) (orderly : paged.Orderly)
    (finite : ∀ x ∈ t.toList, Scalar.isFinite x = true)
    (ran : paged.store.interpret options page = (measured, none)) :
    (Interpreter.pageCourse (α := Float) ⟨(paged.prepended at' entries t).store, options⟩
        page).fault? = none ∧
      (Interpreter.pageCourse (α := Float) ⟨(paged.prepended at' entries t).store, options⟩
        page).operators = measured.executed + 1 ∧
      (measured.abort? = none → (Recording.ofSteps options.normalForm
        (Interpreter.pageCourse (α := Float) ⟨(paged.prepended at' entries t).store, options⟩
          page).steps).abort? = none) := by
  obtain ⟨content, resources, read, shown, drawn⟩ := Store.interpret_eq_ok ran
  obtain ⟨ended, counted, -⟩ := Interpreter.pageCourse_of_interpret ran
  have alike := (found.changedAt_prepended (.refl paged) t).alike
    (entries.sameElsewhere_set (.inl rfl) _) orderly.closed (orderly.apart _ _ _ _ found)
  cases parsed : Content.operators content with
  | error fault =>
    unfold Interpreter.runStream Interpreter.operators at drawn
    rw [parsed] at drawn
    cases drawn
  | ok operators =>
    obtain ⟨content', numerals, read', parsed'⟩ :=
      operators_prepended found orderly.closed (.refl paged) finite read parsed
    obtain ⟨sameFault, more, unended⟩ :=
      Interpreter.pageCourse_behind (α := Float) alike read shown parsed read' parsed'
    rw [Interpreter.pageCourse_abort ran] at unended
    rw [counted, Nat.add_comm]
    exact ⟨sameFault.trans ended, more, unended⟩

/-- A page behind a transform is interpreted if it has fewer operators than are allowed, and fails
if it has as many. -/
theorem PageAt.interpret_prepended {page at' : Nat} {entries : Dictionary}
    (found : paged.PageAt index page at' entries) (orderly : paged.Orderly)
    (finite : ∀ x ∈ t.toList, Scalar.isFinite x = true)
    (ran : paged.store.interpret options page = (measured, none))
    (unended : measured.abort? = none) :
    (measured.executed < options.maxOperators →
      ∃ replayed, replayed.executed = measured.executed + 1 ∧
        (paged.prepended at' entries t).interpret options index = .ok replayed) ∧
    (measured.executed = options.maxOperators →
      (paged.prepended at' entries t).interpret options index =
        .error (.process (.limitExceeded "max_operators_per_page" options.maxOperators
          (options.maxOperators + 1)))) := by
  obtain ⟨whole, counted, unended'⟩ := found.pageCourse_prepended orderly finite ran
  have unended' := Interpreter.interpret_unended (unended' unended)
  have id := (found.prepended t).id
  constructor
  · intro fewer
    have fault := (Store.interpret_of_le (counted.trans_le fewer)).1
    obtain ⟨_, same, -⟩ := Interpreter.pageCourse_of_interpret (Prod.ext rfl (fault.trans whole))
    exact ⟨_, same.trans counted,
      interpret_of_pageId id (Prod.ext rfl (fault.trans whole)) unended'⟩
  · intro full
    exact interpret_of_fault id (Store.interpret_of_lt (full ▸ counted.ge)).1 unended'

/-- **The operator of a transform is counted with those of the page.** A page that was interpreted
is interpreted again behind a transform if it has fewer operators than are allowed; if it has just
as many, it fails. The document is left as it was. -/
theorem interpret_underTransform (orderly : paged.Orderly)
    (finite : ∀ x ∈ t.toList, Scalar.isFinite x = true)
    (ended : paged.interpret options index = .ok measured) :
    measured.executed ≤ options.maxOperators ∧ ∃ left, left.SameDocument paged ∧
      (measured.executed < options.maxOperators →
        ∃ replayed, replayed.executed = measured.executed + 1 ∧
          PageEdit.underTransform index t (PageEdit.read fun paged => paged.interpret options index)
            paged = .ok replayed left) ∧
      (measured.executed = options.maxOperators →
        PageEdit.underTransform index t (PageEdit.read fun paged => paged.interpret options index)
          paged = .error (.process (.limitExceeded "max_operators_per_page" options.maxOperators
            (options.maxOperators + 1))) left) := by
  obtain ⟨page, at', entries, found, ran, unended⟩ := exists_pageAt ended
  obtain ⟨-, -, bounded⟩ := Interpreter.pageCourse_of_interpret ran
  obtain ⟨fewer, full⟩ := found.interpret_prepended orderly finite ran unended
  refine ⟨bounded, _, withdraw_of_prepended found (.refl (paged.prepended at' entries t)),
    fun room => ?_, fun none => ?_⟩
  · obtain ⟨replayed, counted, again⟩ := fewer room
    exact ⟨replayed, counted, PageEdit.underTransform_of_ok found (PageEdit.read_of_ok again)⟩
  · exact PageEdit.underTransform_of_error found (PageEdit.read_of_error (full none))

/-- A page of five operators, which are all that is allowed, behind a quarter turn. -/
theorem interpret_underTransform_of_slanted_page :
    let options : ExtractOptions := { ExtractOptions.standard with maxOperators := 5 }
    let t : Transform Float := ⟨0, 1, -1, 0, 612, 0⟩
    ofSlantedPage.Orderly ∧ (∀ x ∈ t.toList, Scalar.isFinite x = true) ∧
      ∃ measured left, ofSlantedPage.interpret options 0 = .ok measured ∧ measured.executed = 5 ∧
        PageEdit.underTransform 0 t (PageEdit.read fun paged => paged.interpret options 0)
          ofSlantedPage = .error (.process (.limitExceeded "max_operators_per_page" 5 6)) left := by
  intro options t
  have finite : ∀ x ∈ t.toList, Scalar.isFinite x = true := by decide
  have content : ofSlantedPage.store.pageContent 1 = .ok slantedText := rfl
  have resources : ofSlantedPage.store.pageResources 1 =
    .ok [(Text.Utf8.encode "Font", .reference 2)] := rfl
  obtain ⟨measured, whole, unended, five, -⟩ := Store.interpret_slantedText (α := Float) content
    resources (show 5 ≤ options.maxOperators from le_rfl) fun _ => rfl
  have ended := interpret_of_pageId (rfl : ofSlantedPage.pageId 0 = .ok 1) whole unended
  obtain ⟨-, left, -, -, full⟩ := interpret_underTransform ofSlantedPage_orderly finite ended
  exact ⟨ofSlantedPage_orderly, finite, _, left, ended, five, full five⟩

end PagedStore

/-! ## Replaying a page -/

namespace PageEdit

open PagedStore

variable {opened : PagedStore} {options : ExtractOptions} {index : Nat}
  {measured : Recording Float} {centre : Point Float} {angle : Float}

/-- A page is replayed at an angle if it is upright or has fewer operators than are allowed. -/
theorem turnedGlyphs_of_room (orderly : opened.Orderly)
    (interpreted : opened.interpret options index = .ok measured)
    (finite : ∀ x ∈ (Transform.rotationAbout (-angle) centre).toList, Scalar.isFinite x = true)
    (room : (angle == 0.0) = true ∨ measured.executed < options.maxOperators) :
    Succeeds (·.SameDocument opened) (turnedGlyphs options index centre angle) := by
  intro before same
  have ended := same.interpret.trans interpreted
  unfold turnedGlyphs
  by_cases upright : (angle == 0.0) = true
  · rw [if_pos upright, bind_of_ok (read_of_ok ended)]
    exact ⟨_, before, rfl, same⟩
  · rw [if_neg upright]
    obtain ⟨page, at', entries, found, ran, unended⟩ := exists_pageAt ended
    obtain ⟨_, -, shown⟩ := (found.interpret_prepended (same.orderly orderly) finite ran unended).1
      (room.resolve_left upright)
    exact ⟨_, _, underTransform_of_ok found (bind_of_ok (read_of_ok shown)),
      (withdraw_of_prepended found (.refl _)).trans same⟩

/-- A page that is turned is not replayed if it has as many operators as are allowed. -/
theorem turnedGlyphs_of_full (orderly : opened.Orderly)
    (interpreted : opened.interpret options index = .ok measured)
    (finite : ∀ x ∈ (Transform.rotationAbout (-angle) centre).toList, Scalar.isFinite x = true)
    (turned : ¬(angle == 0.0) = true) (full : measured.executed = options.maxOperators)
    {before : PagedStore} (same : before.SameDocument opened) :
    ∃ after, turnedGlyphs options index centre angle before =
      .error (.process (.limitExceeded "max_operators_per_page" options.maxOperators
        (options.maxOperators + 1))) after := by
  obtain ⟨page, at', entries, found, ran, unended⟩ :=
    exists_pageAt (same.interpret.trans interpreted)
  have failed := (found.interpret_prepended (same.orderly orderly) finite ran unended).2 full
  unfold turnedGlyphs
  rw [if_neg turned]
  exact ⟨_, underTransform_of_error found (bind_of_error (read_of_error failed))⟩

variable {entries : List (Float × Nat)} {before : PagedStore}

/-- The view of an orientation. -/
def replay (options : ExtractOptions) (index : Nat) (centre : Point Float) (entry : Float × Nat) :
    PageEdit (Replay Float) := do
  return ⟨entry.1, entry.2, ← turnedGlyphs options index centre entry.1⟩

/-- Where one operator more fits in the budget, or the bands are not turned, all of them are
replayed. By induction on the bands, the document being the same before each. -/
theorem mapM_replay_of_room (orderly : opened.Orderly)
    (interpreted : opened.interpret options index = .ok measured)
    (finite : ∀ entry ∈ entries, ∀ x ∈ (Transform.rotationAbout (-entry.1) centre).toList,
      Scalar.isFinite x = true)
    (room : ∀ entry ∈ entries,
      (entry.1 == 0.0) = true ∨ measured.executed < options.maxOperators)
    (same : before.SameDocument opened) :
    ∃ replays after, entries.mapM (replay options index centre) before = .ok replays after := by
  induction entries generalizing before with
  | nil => exact ⟨[], before, rfl⟩
  | cons entry entries ih =>
    obtain ⟨firstFinite, finite⟩ := List.forall_mem_cons.mp finite
    obtain ⟨firstRoom, room⟩ := List.forall_mem_cons.mp room
    obtain ⟨glyphs, between, shown, same⟩ :=
      turnedGlyphs_of_room orderly interpreted firstFinite firstRoom before same
    obtain ⟨replays, after, others⟩ := ih finite room same
    rw [List.mapM_cons]
    have first : replay options index centre entry before =
        .ok ⟨entry.1, entry.2, glyphs⟩ between :=
      bind_of_ok shown
    rw [bind_of_ok first, bind_of_ok others]
    exact ⟨_, after, rfl⟩

/-- Where the budget is full, the first band that is turned exceeds it by the injected operator.
Those before it are replayed as they stand. -/
theorem mapM_replay_of_full (orderly : opened.Orderly)
    (interpreted : opened.interpret options index = .ok measured)
    (finite : ∀ entry ∈ entries, ∀ x ∈ (Transform.rotationAbout (-entry.1) centre).toList,
      Scalar.isFinite x = true)
    (full : measured.executed = options.maxOperators)
    (turned : ∃ entry ∈ entries, ¬(entry.1 == 0.0) = true) (same : before.SameDocument opened) :
    ∃ after, entries.mapM (replay options index centre) before =
      .error (.process (.limitExceeded "max_operators_per_page" options.maxOperators
        (options.maxOperators + 1))) after := by
  induction entries generalizing before with
  | nil =>
    obtain ⟨_, none, _⟩ := turned
    cases none
  | cons entry entries ih =>
    obtain ⟨firstFinite, finite⟩ := List.forall_mem_cons.mp finite
    rw [List.mapM_cons]
    by_cases upright : (entry.1 == 0.0) = true
    · obtain ⟨glyphs, between, shown, same⟩ :=
        turnedGlyphs_of_room orderly interpreted firstFinite (.inl upright) before same
      obtain ⟨other, member, isTurned⟩ := turned
      have later : other ∈ entries := by
        rcases List.mem_cons.mp member with rfl | later
        · exact absurd upright isTurned
        · exact later
      obtain ⟨after, failed⟩ := ih finite ⟨other, later, isTurned⟩ same
      have first : replay options index centre entry before =
          .ok ⟨entry.1, entry.2, glyphs⟩ between := bind_of_ok shown
      rw [bind_of_ok first]
      exact ⟨after, bind_of_error failed⟩
    · obtain ⟨after, failed⟩ :=
        turnedGlyphs_of_full orderly interpreted firstFinite upright full same
      have first : replay options index centre entry before = .error _ after :=
        bind_of_error failed
      exact ⟨after, bind_of_error first⟩

end PageEdit

/-- **A page is left out for its operators if it has as many as are allowed and text at an angle.**
Otherwise, as long as it can be measured, its text is extracted. -/
theorem PageEdit.extract_overBudget {opened : PagedStore} {options : ProcessOptions Float}
    {index : Nat} {measured : Recording Float} {mediaBox cropBox : Rect Float}
    (orderly : opened.Orderly)
    (interpreted : opened.interpret options.extract index = .ok measured)
    (finite : ∀ entry ∈ (PageOrientation.ofGlyphs options measured.glyphs.toList).descending,
      ∀ x ∈ (Transform.rotationAbout (-entry.1) cropBox.centre).toList, Scalar.isFinite x = true) :
    if measured.executed = options.extract.maxOperators ∧
        ∃ entry ∈ (PageOrientation.ofGlyphs options measured.glyphs.toList).descending,
          ¬(entry.1 == 0.0) = true then
      ∃ after, extract options index mediaBox cropBox opened =
        .error (.process (.limitExceeded "max_operators_per_page" options.extract.maxOperators
          (options.extract.maxOperators + 1))) after
    else
      ∃ extracted after, extract options index mediaBox cropBox opened = .ok extracted after := by
  obtain ⟨page, at', entries, found, ran, -⟩ := PagedStore.exists_pageAt interpreted
  obtain ⟨-, -, bounded⟩ := Interpreter.pageCourse_of_interpret ran
  unfold extract
  rw [bind_of_ok (read_of_ok interpreted)]
  split
  · next skipped =>
    obtain ⟨after, failed⟩ := mapM_replay_of_full orderly interpreted finite skipped.1 skipped.2
      (.refl opened)
    exact ⟨after, bind_of_error failed⟩
  · next kept =>
    have room : ∀ entry ∈ (PageOrientation.ofGlyphs options measured.glyphs.toList).descending,
        (entry.1 == 0.0) = true ∨ measured.executed < options.extract.maxOperators := by
      intro entry member
      by_contra none
      obtain ⟨turned, full⟩ := not_or.mp none
      exact kept ⟨Nat.le_antisymm bounded (Nat.not_lt.mp full), entry, member, turned⟩
    obtain ⟨replays, after, replayed⟩ :=
      mapM_replay_of_room orderly interpreted finite room (.refl opened)
    exact ⟨_, after, bind_of_ok replayed⟩

end PlacedText
