import Mathlib
import PlacedText.Proofs.Page.Sweep
import PlacedText.Proofs.Scalar.Real

/-! # The text of a run

What a run of glyphs adds to the text of a page is said without its lines: the characters of glyphs,
each with the box of its glyph to the hundredth (`Box.Recorded`), and of separators between them,
which have no box (`PageText.Writes`). A run writes the glyphs that are kept, each once and nothing
else (`PageText.pushRun_writes`).
-/

namespace PlacedText

variable {α : Type} [Scalar α]

namespace Layout

/-- Every glyph is on one line. -/
theorem flatten_linesByPosition (glyphs : List (PlacedGlyph α)) :
    (linesByPosition glyphs).flatten.Perm glyphs := by
  have lineByLine (lines : List (List (PlacedGlyph α))) :
      (lines.map (Scalar.sortOn fun glyph => glyph.layoutBox.left)).flatten.Perm lines.flatten := by
    induction lines with
    | nil => exact .refl []
    | cons line lines ih => exact (Scalar.sortOn_perm _ line).append ih
  refine (lineByLine _).trans ?_
  rw [flatten_lines]
  exact Scalar.sortOn_perm _ glyphs

end Layout

/-! ## Boxes that are recorded -/

/-- Whether a number is another to the hundredth: a hundred times the other and a half has so many
whole hundredths. -/
inductive Scalar.Hundredths (x : α) : α → Prop where
  | whole {count : α} (counted : count = Scalar.floor (x * 100.0 + 0.5)) :
    Hundredths x (count / 100.0)

/-- On the numbers themselves that is the nearest hundredth, and of two that are as near the one
above. -/
theorem Scalar.hundredths_iff_nearest {x rounded : ℝ} : Scalar.Hundredths x rounded ↔
    ∃ count : ℤ, rounded = count / 100 ∧ (count : ℝ) - 1 / 2 ≤ 100 * x ∧
      100 * x < (count : ℝ) + 1 / 2 := by
  constructor
  · rintro ⟨counted⟩
    have floor : Scalar.floor (x * 100.0 + 0.5) = ((⌊x * 100.0 + 0.5⌋ : ℤ) : ℝ) := rfl
    refine ⟨⌊x * 100.0 + 0.5⌋, ?_, ?_, ?_⟩
    · rw [counted, floor]
      norm_num
    · have below := Int.floor_le (x * 100.0 + 0.5)
      norm_num at below ⊢
      linarith
    · have above : x * 100.0 + 0.5 < ((⌊x * 100.0 + 0.5⌋ : ℤ) : ℝ) + 1 := Int.lt_floor_add_one _
      norm_num only at above ⊢
      linarith
  · rintro ⟨count, rfl, below, above⟩
    have floor : ⌊x * 100.0 + 0.5⌋ = count := by
      rw [Int.floor_eq_iff]
      constructor
      · norm_num
        linarith
      · norm_num
        linarith
    have whole : ((count : ℤ) : ℝ) / 100 = (count : ℝ) / 100.0 := by norm_num
    rw [whole]
    exact .whole (by rw [← floor]; rfl)

/-- Whether a box is recorded for the characters of a glyph in another box: its left upper corner,
its width and its height are those of the other box to the hundredth. -/
structure Box.Recorded (box : Box α) (recorded : CharBox α) : Prop where
  x : Scalar.Hundredths box.left recorded.x
  y : Scalar.Hundredths box.top recorded.y
  width : Scalar.Hundredths (box.right - box.left) recorded.width
  height : Scalar.Hundredths (box.bottom - box.top) recorded.height

/-- A box is recorded as the one whose sides are rounded to hundredths; rounding is a function, so
there is no other. -/
theorem Box.recorded_iff {box : Box α} {recorded : CharBox α} :
    box.Recorded recorded ↔ recorded = CharBox.ofBox box := by
  constructor
  · obtain ⟨x, y, width, height⟩ := recorded
    rintro ⟨⟨rfl⟩, ⟨rfl⟩, ⟨rfl⟩, ⟨rfl⟩⟩
    rfl
  · rintro rfl
    exact ⟨.whole rfl, .whole rfl, .whole rfl, .whole rfl⟩

/-- Whether a glyph prints: the area that it takes is not zero, and it has a character that is no
control character. -/
structure PlacedGlyph.Prints (glyph : PlacedGlyph α) : Prop where
  area : ((glyph.outputBox.right - glyph.outputBox.left) *
    (glyph.outputBox.bottom - glyph.outputBox.top) == 0.0) = false
  visible : ∃ char ∈ glyph.text.toList, Text.isControl char = false

/-- Glyphs print just where the program does not take them for unprintable. -/
theorem PlacedGlyph.prints_iff {glyph : PlacedGlyph α} :
    glyph.Prints ↔ glyph.isNonPrintable = false := by
  unfold isNonPrintable Box.width Box.height
  rw [Bool.or_eq_false_iff, List.all_eq_false]
  constructor
  · rintro ⟨area, char, member, visible⟩
    exact ⟨area, char, member, by rw [visible]; exact Bool.false_ne_true⟩
  · rintro ⟨area, char, member, visible⟩
    exact ⟨area, char, member, Bool.eq_false_iff.mpr visible⟩

instance (glyph : PlacedGlyph α) : Decidable glyph.Prints :=
  decidable_of_iff _ PlacedGlyph.prints_iff.symm

namespace PageText

/-! ## What is written -/

/-- Whether characters are those of a glyph. Every character of a glyph that prints has the box of
the glyph, to the hundredth; those of other glyphs have none. -/
inductive Shows : PlacedGlyph α → List (Mark α) → Prop where
  | printable {glyph : PlacedGlyph α} {box : CharBox α} (prints : glyph.Prints)
    (recorded : glyph.outputBox.Recorded box) :
    Shows glyph (glyph.text.toList.map fun char => ⟨char, some box⟩)
  | nonPrintable {glyph : PlacedGlyph α} (hidden : ¬ glyph.Prints) :
    Shows glyph (glyph.text.toList.map fun char => ⟨char, none⟩)

/-- What may stand between two glyphs of a run, always without boxes. -/
inductive Separates (separators : Separators) : List (Mark α) → Prop where
  | nothing : Separates separators []
  | word : Separates separators (separators.word.toList.map fun char => ⟨char, none⟩)
  | line : Separates separators (separators.line.toList.map fun char => ⟨char, none⟩)
  | paragraph : Separates separators
    ((separators.line.toList ++ separators.paragraphEnd.toList).map fun char => ⟨char, none⟩)

/-- Whether characters are those of some glyphs in their order, with what may stand between two of
them between any two and nowhere else. -/
inductive Writes (separators : Separators) : List (PlacedGlyph α) → List (Mark α) → Prop where
  | nothing : Writes separators [] []
  | last {glyph : PlacedGlyph α} {own : List (Mark α)} (shown : Shows glyph own) :
    Writes separators [glyph] own
  | next {glyph follower : PlacedGlyph α} {rest : List (PlacedGlyph α)}
    {own between others : List (Mark α)} (shown : Shows glyph own)
    (separated : Separates separators between)
    (written : Writes separators (follower :: rest) others) :
    Writes separators (glyph :: follower :: rest) (own ++ (between ++ others))

/-- The marks that the program gives a glyph show it: all of its characters have its box, or none of
them has one. -/
theorem shows_marksOf (glyph : PlacedGlyph α) :
    Shows glyph (marksOf glyph.text glyph.charBox?) := by
  unfold marksOf PlacedGlyph.charBox?
  cases prints : glyph.isNonPrintable with
  | false => exact .printable (PlacedGlyph.prints_iff.mpr prints) (Box.recorded_iff.mpr rfl)
  | true =>
    refine .nonPrintable fun shown => ?_
    rw [PlacedGlyph.prints_iff.mp shown] at prints
    cases prints

/-- Two runs, one behind the other, are a run. -/
theorem Writes.append {separators : Separators} {glyphs glyphs' : List (PlacedGlyph α)}
    {marks between marks' : List (Mark α)} (written : Writes separators glyphs marks)
    (separated : Separates separators between) (written' : Writes separators glyphs' marks')
    (visible : glyphs ≠ []) (visible' : glyphs' ≠ []) :
    Writes separators (glyphs ++ glyphs') (marks ++ (between ++ marks')) := by
  induction written with
  | nothing => exact absurd rfl visible
  | last shown =>
    obtain ⟨follower, rest, rfl⟩ := List.exists_cons_of_ne_nil visible'
    exact .next shown separated written'
  | next shown here _ ih =>
    rw [List.append_assoc, List.append_assoc]
    exact .next shown here (ih (List.cons_ne_nil _ _))

variable {options : LayoutOptions α}

/-- One line is written glyph by glyph, with the separator of words where two are apart. -/
theorem writes_lineMarks (line : List (PlacedGlyph α)) :
    Writes options.separators line (lineMarks options line) := by
  induction line using lineMarks.induct with
  | case1 => exact .nothing
  | case2 glyph => exact .last (shows_marksOf glyph)
  | case3 glyph next rest ih =>
    unfold lineMarks
    split
    · exact .next (shows_marksOf glyph) .word ih
    · exact .next (shows_marksOf glyph) .nothing ih

/-- Lines are written one behind the other with a separator between them. By induction on the lines;
none is empty, so every separator stands behind a glyph and in front of one. -/
theorem writes_linesMarks {lines : List (List (PlacedGlyph α))}
    (visible : ∀ line ∈ lines, line ≠ []) :
    Writes options.separators lines.flatten (linesMarks options lines) := by
  induction lines using linesMarks.induct with
  | case1 => exact .nothing
  | case2 line =>
    rw [List.flatten_singleton]
    exact writes_lineMarks line
  | case3 line next rest ih =>
    have others : ∀ line ∈ next :: rest, line ≠ [] :=
      fun line member => visible line (.tail _ member)
    have follows : (next :: rest).flatten ≠ [] := by
      rw [List.flatten_cons]
      exact List.append_ne_nil_of_left_ne_nil (others next (.head _)) _
    have separated : Separates (α := α) options.separators
        (marksOf options.separators.line none ++
          if Layout.isParagraphBreak options.paragraphGap line next then
            marksOf options.separators.paragraphEnd none else []) := by
      split
      · unfold marksOf
        rw [← List.map_append]
        exact .paragraph
      · rw [List.append_nil]
        exact .line
    unfold linesMarks
    rw [List.flatten_cons, ← List.append_assoc (marksOf options.separators.line none)]
    exact (writes_lineMarks line).append separated (ih others) (visible line (.head _)) follows

/-! ## Runs -/

/-- A run is shown with all its glyphs, or with those that print. -/
theorem kept_eq (options : LayoutOptions α) (glyphs : List (PlacedGlyph α)) :
    kept options glyphs = if options.nonPrintable = .keep then glyphs
      else glyphs.filter fun glyph => glyph.Prints := by
  have prints (glyph : PlacedGlyph α) : (!glyph.isNonPrintable) = decide glyph.Prints := by
    rw [Bool.eq_iff_iff, decide_eq_true_iff, PlacedGlyph.prints_iff, Bool.not_eq_true']
  unfold kept
  cases options.nonPrintable with
  | keep => rfl
  | drop => exact congrArg (glyphs.filter ·) (funext prints)

/-- The lines of a run have the glyphs that are kept, in their order unless they are sorted. -/
theorem flatten_runLines (options : LayoutOptions α) (glyphs : List (PlacedGlyph α)) :
    (runLines options glyphs).flatten.Perm (kept options glyphs) ∧
      (options.sortByPosition = false →
        (runLines options glyphs).flatten = kept options glyphs) := by
  unfold runLines
  split
  · next sorted =>
    refine ⟨Layout.flatten_linesByPosition _, fun unsorted => ?_⟩
    rw [sorted] at unsorted
    cases unsorted
  · have flat : (Layout.linesAsDrawn (kept options glyphs)).flatten = kept options glyphs :=
      Layout.flatten_lines _ _
    exact ⟨.of_eq flat, fun _ => flat⟩

theorem runLines_ne_nil (options : LayoutOptions α) (glyphs : List (PlacedGlyph α)) :
    ∀ line ∈ runLines options glyphs, line ≠ [] := by
  unfold runLines
  split
  · exact Layout.linesByPosition_ne_nil _
  · exact Layout.lines_ne_nil _ _

/-- A run is appended line by line, behind a line separator if there is text before it. -/
theorem pushRun_marks (page : PageText α) (options : LayoutOptions α)
    (glyphs : List (PlacedGlyph α)) : (page.pushRun options glyphs).marks = page.marks ++
      ((if page.isEmpty ∨ kept options glyphs = [] then []
        else marksOf options.separators.line none) ++
        linesMarks options (runLines options glyphs)) := by
  have members := (flatten_runLines options glyphs).1
  have visible := runLines_ne_nil options glyphs
  unfold pushRun
  split
  · next blank =>
    rw [blank] at members
    rw [if_pos (.inr (List.nil_perm.mp members)), blank]
    simp [linesMarks]
  · next lines some =>
    have shown : kept options glyphs ≠ [] := by
      intro blank
      rw [blank] at members
      obtain ⟨line, rest, first⟩ := List.exists_cons_of_ne_nil some
      rw [first] at members visible
      exact visible line (.head _) (List.append_eq_nil_iff.mp members.eq_nil).1
    simp [append, shown]

/-- **A run neither loses, doubles nor alters a glyph.** It is appended to the page: behind a line
separator if there is text before it and a glyph to show, it writes the glyphs that are kept, which
are all glyphs or just those that print, in some order, and in the order they come in unless they
are sorted by position. Every character of the page has its place among the boxes. -/
theorem pushRun_writes (page : PageText α) (options : LayoutOptions α)
    (glyphs : List (PlacedGlyph α)) :
    let shown := if options.nonPrintable = .keep then glyphs
      else glyphs.filter fun glyph => glyph.Prints
    let opening : List (Mark α) := if page.isEmpty ∨ shown = [] then []
      else options.separators.line.toList.map fun char => ⟨char, none⟩
    ∃ (order : List (PlacedGlyph α)) (marks : List (Mark α)),
      order.Perm shown ∧ (options.sortByPosition = false → order = shown) ∧
      Writes options.separators order marks ∧
      (page.pushRun options glyphs).text =
        page.text ++ String.ofList ((opening ++ marks).map Mark.char) ∧
      (page.pushRun options glyphs).boxes = page.boxes ++ (opening ++ marks).map Mark.box? ∧
      (page.pushRun options glyphs).text.length = (page.pushRun options glyphs).boxes.length := by
  intro shown opening
  have keeps : kept options glyphs = shown := kept_eq options glyphs
  obtain ⟨members, drawn⟩ := flatten_runLines options glyphs
  have added : (page.pushRun options glyphs).marks = page.marks ++
      (opening ++ linesMarks options (runLines options glyphs)) := by
    rw [pushRun_marks, keeps]
    rfl
  rw [keeps] at members drawn
  refine ⟨_, _, members, drawn, writes_linesMarks (runLines_ne_nil options glyphs), ?_, ?_, ?_⟩
  · unfold text
    rw [added, List.map_append, String.ofList_append]
  · unfold boxes
    rw [added, List.map_append]
  · unfold text boxes
    simp

end PageText

end PlacedText
