import PlacedText.Document.Basic
import PlacedText.Outline.Contents
import PlacedText.Outline.NameTree
import PlacedText.Outline.Tree
import PlacedText.Page.Placement
import PlacedText.Paged.Content

/-! # Extracting the text of a document

Every page is measured and then read once for each orientation of its text. If pages are to be
straightened, they are left rotated upright and without skew. A page that fails is reported and left
out.
-/

namespace PlacedText

/-- What is known of a page before it is measured. -/
structure PageSetup where
  mediaBox : Rect Float
  cropBox : Rect Float
  /-- The rotation that the page has, its own or inherited. -/
  rotation : Nat
  /-- The entry of the page itself that rotates it, if it was suspended. -/
  suspended? : Option (Option Object)

/-- What the extraction of a page comes to. -/
structure PageOutcome where
  mediaBox : Rect Float
  text : PageText Float
  /-- The measured angle of the text; zero if the measurement could not be trusted. -/
  deskewAngle : Float
  /-- The rotation that the page is left with. -/
  rotation : Nat
  warnings : List Warning

/-- The text of a document with the warnings about it. -/
structure Extraction where
  document : Document Float
  warnings : List Warning
  /-- What a font ended the program with. What was extracted since is of no account. -/
  abort? : Option FontAbort

namespace PageEdit

variable {β : Type}

/-! ## One page -/

/-- The glyphs of a page turned clockwise about a point by an angle. -/
def turnedGlyphs (options : ExtractOptions) (index : Nat) (centre : Point Float) (angle : Float) :
    PageEdit (List (GlyphEvent Float)) :=
  let glyphs : PageEdit (List (GlyphEvent Float)) := do
    return (← read fun paged => paged.interpret options index).glyphs.toList
  if angle == 0.0 then glyphs
  else underTransform index (Transform.rotationAbout (-angle) centre) glyphs

/-- The warning about glyphs without text, if there are any and warnings are collected. -/
def unmappedWarning? (options : ExtractOptions) (unmapped : Nat) : Option Warning :=
  if unmapped > 0 ∧ options.collectWarnings then
    some (.of .encodingFallback s!"{unmapped} glyphs without a Unicode mapping")
  else none

/-- The text of a page with what was measured of it and the warnings about it. -/
def extract (options : ProcessOptions Float) (index : Nat) (mediaBox cropBox : Rect Float) :
    PageEdit (PageText Float × DeskewDecision Float × List Warning) := do
  let measured ← read fun paged => paged.interpret options.extract index
  let orientation := PageOrientation.ofGlyphs options measured.glyphs.toList
  let replays ← PageLayout.replays orientation (turnedGlyphs options.extract index cropBox.centre)
  let layout := PageLayout.ofReplays options orientation mediaBox cropBox replays
  let warnings := measured.warnings.toList ++
    (unmappedWarning? options.extract layout.unmapped).toList
  return (layout.text.finish options.separators, orientation.decision,
    warnings.map fun warning => warning.onPage index)

/-- Rotates a page back to no rotation for measuring, and tells what its own entry was. A page that
is not rotated is left alone. -/
def suspendRotation (index rotation : Nat) : PageEdit (Option (Option Object)) := do
  if rotation = 0 then return none
  let own? ← read fun paged => paged.ownRotation? index
  setRotation index 0
  return some own?

/-- Reads the boxes of a page and suspends its rotation. -/
def setUp (index : Nat) : PageEdit PageSetup := do
  let mediaBox ← read fun paged => paged.mediaBox index
  let cropBox ← read fun paged => paged.cropBox index
  let rotation ← read fun paged => paged.rotation index
  let suspended? ← suspendRotation index rotation
  return { mediaBox, cropBox, rotation, suspended? }

/-- Puts back the entry of a page whose rotation was suspended. -/
def resumeRotation (index : Nat) (suspended? : Option (Option Object)) : PageEdit Unit :=
  match suspended? with
  | some own? => restoreRotation index own?
  | none => pure ()

/-- Rotates and straightens a page as decided. It tells the rotation the page is left with, which
is written only if it is not the one the page had. -/
def straighten (options : ProcessOptions Float) (index : Nat) (decision : DeskewDecision Float)
    (before : Nat) (suspended? : Option (Option Object)) : PageEdit Nat := do
  let rotation := decision.finalRotation options.deskew before
  if rotation ≠ before then setRotation index rotation else resumeRotation index suspended?
  let skew := decision.correctedSkew options.deskew
  if skew != 0.0 then rotateContents index (-skew)
  return rotation

/-- Does something, and then something else if it failed, the outcome of which does not count. -/
def orElseDo (action : PageEdit β) (recover : PageEdit Unit) : PageEdit β := fun paged =>
  match action paged with
  | .ok answer paged => .ok answer paged
  | .error fault paged =>
    match recover paged with
    | .ok _ paged => .error fault paged
    | .error _ paged => .error fault paged

/-- Extracts the text of a page, which is left as decided, or as it was if that fails. -/
def processPage (options : ProcessOptions Float) (index : Nat) : PageEdit PageOutcome := do
  let setup ← setUp index
  let (text, decision, warnings) ←
    orElseDo (extract options index setup.mediaBox setup.cropBox)
      (resumeRotation index setup.suspended?)
  let rotation ← straighten options index decision setup.rotation setup.suspended?
  return {
    mediaBox := setup.mediaBox
    text
    deskewAngle := decision.measuredAngle
    rotation
    warnings }

end PageEdit

/-! ## All pages -/

namespace Extraction

def empty : Extraction := ⟨.empty, [], none⟩

/-- Appends a page. -/
def addPage (extraction : Extraction) (index : Nat) (outcome : PageOutcome) : Extraction where
  document := extraction.document.pushPage index outcome.mediaBox outcome.text
    outcome.deskewAngle outcome.rotation
  warnings := extraction.warnings ++ outcome.warnings
  abort? := extraction.abort?

/-- Reports a page that is left out, and notes if a font ended the program. -/
def skipPage (extraction : Extraction) (index : Nat) (fault : ReadFault) : Extraction :=
  let warning := (Warning.of .pageSkipped ("page skipped: " ++ fault.message)).onPage index
  { extraction with
    warnings := extraction.warnings ++ [warning]
    abort? := extraction.abort?.or fault.abort? }

end Extraction

namespace PagedStore

/-- Extracts a page. -/
def extractNext (options : ProcessOptions Float) (progress : PagedStore × Extraction)
    (index : Nat) : PagedStore × Extraction :=
  match PageEdit.processPage options index progress.1 with
  | .ok outcome paged => (paged, progress.2.addPage index outcome)
  | .error fault paged => (paged, progress.2.skipPage index fault)

/-- Extracts the text of all pages, without the table of contents. -/
def extractPages (paged : PagedStore) (options : ProcessOptions Float) :
    PagedStore × Extraction :=
  (List.range paged.pageCount).foldl (extractNext options) (paged, .empty)

/-- The table of contents, and the warnings about names that are defined again. -/
def contents (paged : PagedStore) : List (ContentsEntry Float) × List Warning :=
  let (named, warnings) : NamedDestinations Nat Float × List Warning :=
    paged.store.namedDestinations
  (tableOfContents named paged.pageIds paged.store.outline, warnings)

/-- Extracts the text of all pages and the table of contents. -/
def extract (paged : PagedStore) (options : ProcessOptions Float) : PagedStore × Extraction :=
  let (paged, extraction) := paged.extractPages options
  let (entries, warnings) := paged.contents
  (paged, {
    extraction with
    document := { extraction.document with tableOfContents := entries }
    warnings := extraction.warnings ++ warnings })

/-- Processes a document: extracts its text and table of contents, unless a font ends the
program. -/
def process (paged : PagedStore) (options : ProcessOptions Float) :
    Except FontAbort (PagedStore × Extraction) :=
  let processed := paged.extract options
  match processed.2.abort? with
  | some cause => .error cause
  | none => .ok processed

end PagedStore

end PlacedText
