import PlacedText.Document.Extraction
import PlacedText.Proofs.Paged.Redrawn
import Mathlib.Data.FinEnum
import Mathlib.Data.Set.Finite.Lemmas

/-! # Processing pages in other arithmetic

A page is processed as it is with doubles, but with other numbers (`Arithmetic.processPage`). The
documents stay the same: a transform is still written in front of a page with the doubles that stand
for its numbers. In exact arithmetic it is read with the numbers that it was made of, and not with
those that were written (`Rounding.exact`). With doubles, processing is that of the program
(`Arithmetic.processPage_double`).
-/

namespace PlacedText

open Effect

variable {α β : Type}

/-- A transform with something made of each of its numbers. -/
def Transform.map (change : α → β) (t : Transform α) : Transform β :=
  ⟨change t.a, change t.b, change t.c, change t.d, change t.e, change t.f⟩

variable [Scalar α]

/-! ## Arithmetic -/

/-- How pages are transformed in some arithmetic. -/
structure Arithmetic (α : Type) where
  /-- What is written in front of a page for a transform. -/
  written : Transform α → Transform Float
  /-- The transform that is read in place of what was written, if that is not read back. -/
  instead? : Transform α → Option (Transform α)

/-- A finite double for every real number. -/
structure Rounding where
  nearest : ℝ → Float
  finite : ∀ x, Scalar.isFinite (nearest x) = true

/-- Doubles: a transform is written as it is, and what was written is read back. -/
def Arithmetic.double : Arithmetic Float := ⟨id, fun _ => none⟩

/-- There is a nearest one among the finite doubles. -/
theorem Rounding.exists_nearest (x : ℝ) :
    ∃ bits ∈ {bits : UInt64 | Scalar.isFinite (Float.ofBits bits) = true},
      ∀ other ∈ {bits : UInt64 | Scalar.isFinite (Float.ofBits bits) = true},
        |Scalar.ofFloat (Float.ofBits bits) - x| ≤ |Scalar.ofFloat (Float.ofBits other) - x| :=
  Set.exists_min_image _ _ (Set.toFinite _) ⟨0, by decide +kernel⟩

/-- Rounding to a nearest double. -/
noncomputable def Rounding.toNearest : Rounding where
  nearest x := Float.ofBits (exists_nearest x).choose
  finite x := (exists_nearest x).choose_spec.1

/-- Exact arithmetic: a transform is rounded to be written, and read as it was before. -/
def Rounding.exact (rounding : Rounding) : Arithmetic ℝ := ⟨Transform.map rounding.nearest, some⟩

namespace Arithmetic

/-- What the extraction of a page comes to. -/
structure Outcome (α : Type) where
  mediaBox : Rect α
  text : PageText α
  deskewAngle : α
  rotation : Nat
  warnings : List Warning

variable (arithmetic : Arithmetic α)

open PageEdit in
/-- The glyphs of a page turned clockwise about a point by an angle. -/
def turnedGlyphs (options : ExtractOptions) (index : Nat) (centre : Point α) (angle : α) :
    PageEdit (List (GlyphEvent α)) :=
  let glyphs (t? : Option (Transform α)) : PageEdit (List (GlyphEvent α)) := do
    return (← read fun paged => paged.interpretInstead t? options index).glyphs.toList
  if angle == 0.0 then glyphs none
  else
    let t := Transform.rotationAbout (-angle) centre
    underTransform index (arithmetic.written t) (glyphs (arithmetic.instead? t))

open PageEdit in
/-- The text of a page with what was measured of it and the warnings about it. -/
def extract (options : ProcessOptions α) (index : Nat) (mediaBox cropBox : Rect α) :
    PageEdit (PageText α × DeskewDecision α × List Warning) := do
  let measured ← read fun paged => paged.interpretInstead (none : Option (Transform α))
    options.extract index
  let orientation := PageOrientation.ofGlyphs options measured.glyphs.toList
  let replays ← PageLayout.replays orientation
    (arithmetic.turnedGlyphs options.extract index cropBox.centre)
  let layout := PageLayout.ofReplays options orientation mediaBox cropBox replays
  let warnings := measured.warnings.toList ++
    (unmappedWarning? options.extract layout.unmapped).toList
  return (layout.text.finish options.separators, orientation.decision,
    warnings.map fun warning => warning.onPage index)

open PageEdit in
/-- Turns the content of a page counter-clockwise about the centre of its crop box. -/
def rotateContents (index : Nat) (degrees : α) : PageEdit Unit := do
  let cropBox ← read fun paged => paged.cropBox index
  let _ ← prepend index (arithmetic.written (Transform.rotationAbout degrees cropBox.centre))

open PageEdit in
/-- Rotates and straightens a page as decided, and tells the rotation it is left with. -/
def straighten (options : ProcessOptions α) (index : Nat) (decision : DeskewDecision α)
    (before : Nat) (suspended? : Option (Option Object)) : PageEdit Nat := do
  let rotation := decision.finalRotation options.deskew before
  if rotation ≠ before then setRotation index rotation else resumeRotation index suspended?
  let skew := decision.correctedSkew options.deskew
  if skew != 0.0 then arithmetic.rotateContents index (-skew)
  return rotation

open PageEdit in
/-- Extracts the text of a page, which is left as decided, or as it was if that fails. -/
def processPage (options : ProcessOptions α) (index : Nat) : PageEdit (Outcome α) := do
  let mediaBox ← read fun paged => paged.mediaBox index
  let cropBox ← read fun paged => paged.cropBox index
  let before ← read fun paged => paged.rotation index
  let suspended? ← suspendRotation index before
  let (text, decision, warnings) ←
    orElseDo (arithmetic.extract options index mediaBox cropBox) (resumeRotation index suspended?)
  let rotation ← arithmetic.straighten options index decision before suspended?
  return ⟨mediaBox, text, decision.measuredAngle, rotation, warnings⟩

/-- The document after some pages of it were processed, one after the other. -/
def leave (options : ProcessOptions α) (paged : PagedStore) (processed : List Nat) : PagedStore :=
  processed.foldl (fun paged index => finalState (arithmetic.processPage options index paged)) paged

/-! ## Doubles -/

/-- The same outcome among doubles. -/
def Outcome.toPageOutcome (outcome : Outcome Float) : PageOutcome :=
  ⟨outcome.mediaBox, outcome.text, outcome.deskewAngle, outcome.rotation, outcome.warnings⟩

theorem turnedGlyphs_double : double.turnedGlyphs = PageEdit.turnedGlyphs := by
  funext options index centre angle
  unfold turnedGlyphs PageEdit.turnedGlyphs
  simp only [PagedStore.interpretInstead_none, double, id]

theorem extract_double : double.extract = PageEdit.extract := by
  funext options index mediaBox cropBox
  unfold extract PageEdit.extract
  simp only [PagedStore.interpretInstead_none, turnedGlyphs_double]

theorem straighten_double : double.straighten = PageEdit.straighten := rfl

/-- **With doubles, a page is processed as the program does.** -/
theorem processPage_double (options : ProcessOptions Float) (index : Nat) :
    PageEdit.processPage options index =
      Outcome.toPageOutcome <$> double.processPage options index := by
  unfold processPage PageEdit.processPage PageEdit.setUp
  simp only [extract_double, straighten_double, bind_assoc, pure_bind, map_eq_pure_bind]
  rfl

end Arithmetic

theorem PageEdit.finalState_processPage (options : ProcessOptions Float) (index : Nat)
    (paged : PagedStore) : finalState (processPage options index paged) =
      finalState (Arithmetic.double.processPage options index paged) := by
  rw [Arithmetic.processPage_double, map_eq_pure_bind]
  exact finalState_bind_pure _ _

namespace Arithmetic

/-- Processing pages with doubles leaves what the program leaves. -/
theorem leave_double (options : ProcessOptions Float) (progress : PagedStore × Extraction)
    (processed : List Nat) :
    (processed.foldl (PagedStore.extractNext options) progress).1 =
      double.leave options progress.1 processed := by
  induction processed generalizing progress with
  | nil => rfl
  | cons index processed ih =>
    have step : (PagedStore.extractNext options progress index).1 =
        finalState (double.processPage options index progress.1) := by
      rw [← PageEdit.finalState_processPage]
      unfold PagedStore.extractNext
      split
      all_goals
        rename_i ended
        rw [ended]
        rfl
    rw [List.foldl_cons, ih, step]
    rfl

end Arithmetic

end PlacedText
