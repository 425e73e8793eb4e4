import PlacedText.Document.Basic

/-! # The pages of a document partition its text

The ranges of the page records follow each other from the start of the text to its end, and there is
a box or none for every character. The check of a document accepts exactly such documents
(`check_eq_ok_iff`), and appending a page gives another (`Partitioned.pushPage`).
-/

namespace PlacedText

variable {α : Type}

namespace PageText

theorem length_text (page : PageText α) : page.text.length = page.length := by
  simp [text, length]

theorem length_boxes (page : PageText α) : page.boxes.length = page.length := by
  simp [boxes, length]

end PageText

namespace Document

/-- The ranges of some records follow each other from one position to another. -/
def Consecutive : Nat → List (PageRecord α) → Nat → Prop
  | start, [], stop => start = stop
  | start, record :: records, stop =>
    record.start = start ∧ start ≤ record.stop ∧ Consecutive record.stop records stop

/-- One more record may follow where the ones before it stop. -/
theorem Consecutive.concat {start stop : Nat} {records : List (PageRecord α)}
    (consecutive : Consecutive start records stop) {record : PageRecord α}
    (follows : record.start = stop) (ordered : stop ≤ record.stop) :
    Consecutive start (records ++ [record]) record.stop := by
  induction records generalizing start with
  | nil =>
    cases consecutive
    exact ⟨follows, ordered, rfl⟩
  | cons first records ih =>
    obtain ⟨started, reached, rest⟩ := consecutive
    exact ⟨started, reached, ih rest⟩

/-- The check of the ranges succeeds with the end of the last one just where each begins at the end
of the one before. By induction on the records. -/
theorem checkRanges_eq_ok_iff {start stop : Nat} {records : List (PageRecord α)} :
    checkRanges start records = .ok stop ↔ Consecutive start records stop := by
  induction records generalizing start with
  | nil => simp [checkRanges, Consecutive]
  | cons record records ih =>
    unfold checkRanges Consecutive
    split
    · next broken =>
      simp only [reduceCtorEq, false_iff]
      rintro ⟨started, ordered, -⟩
      omega
    · next follows =>
      rw [ih]
      constructor
      · intro rest
        exact ⟨by omega, by omega, rest⟩
      · exact fun consecutive => consecutive.2.2

/-- A document with a box or none for every character, whose page ranges follow each other from the
start of the text to its end. -/
structure Partitioned (document : Document α) : Prop where
  boxes : document.text.length = document.charBoxes.length
  ranges : Consecutive 0 document.pages document.charBoxes.length

/-- A document passes its check just where its ranges cover the text, with one box for each
character. -/
theorem check_eq_ok_iff {document : Document α} :
    document.check = .ok () ↔ document.Partitioned := by
  unfold check
  by_cases boxes : document.text.length = document.charBoxes.length
  · simp only [boxes, ne_eq, not_true_eq_false, ↓reduceIte]
    cases checked : checkRanges 0 document.pages with
    | error fault =>
      simp only [reduceCtorEq, false_iff]
      intro partitioned
      rw [checkRanges_eq_ok_iff.mpr partitioned.ranges] at checked
      cases checked
    | ok stop =>
      have consecutive := checkRanges_eq_ok_iff.mp checked
      by_cases ended : stop = document.charBoxes.length
      · subst ended
        simp [Partitioned.mk boxes consecutive]
      · simp only [ended, not_false_eq_true, ↓reduceIte, reduceCtorEq, false_iff]
        intro partitioned
        rw [checkRanges_eq_ok_iff.mpr partitioned.ranges] at checked
        cases checked
        exact ended rfl
  · simp only [ne_eq, boxes, not_false_eq_true, ↓reduceIte, reduceCtorEq, false_iff]
    exact fun partitioned => boxes partitioned.boxes

theorem Partitioned.empty : (empty : Document α).Partitioned :=
  ⟨rfl, rfl⟩

/-- A page is appended with a record for just its characters, whatever its text is. -/
theorem Partitioned.pushPage [Scalar α] {document : Document α} (partitioned : document.Partitioned)
    (pageIndex : Nat) (mediaBox : Rect α) (page : PageText α) (deskewAngle : α) (rotation : Nat) :
    (document.pushPage pageIndex mediaBox page deskewAngle rotation).Partitioned where
  boxes := by
    simp only [Document.pushPage, String.length_append, List.length_append, page.length_text,
      page.length_boxes, partitioned.boxes]
  ranges := by
    simp only [Document.pushPage, List.length_append, page.length_boxes]
    exact partitioned.ranges.concat rfl (Nat.le_add_right _ _)

end Document

end PlacedText
