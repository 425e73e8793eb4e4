import PlacedText.Page.Layout

/-! # The text of a document

The text of all pages in one string, with a box or none for every character, a record for every
page, and the table of contents. The ranges of the page records partition the text.
-/

namespace PlacedText

variable {α : Type} [Scalar α]

/-- A page in the text of its document. -/
structure PageRecord (α : Type) where
  /-- The position of the page in the document, from zero. -/
  pageIndex : Nat
  /-- The lower left corner and the size of the media box. -/
  bbox : Extent α
  /-- Where the text of the page starts, in characters. -/
  start : Nat
  /-- Where the text of the page stops. -/
  stop : Nat
  /-- The measured angle of the text; zero if the measurement could not be trusted. -/
  deskewAngle : α
  /-- The rotation of the page after processing. -/
  rotation : Nat

/-- An entry of the table of contents. -/
structure ContentsEntry (α : Type) where
  title : String
  /-- The depth of the entry, from one. -/
  level : Nat
  left : α
  top : α
  /-- The position of the page in the document, from zero. -/
  page : Nat

structure Document (α : Type) where
  text : String
  charBoxes : List (Option (CharBox α))
  pages : List (PageRecord α)
  tableOfContents : List (ContentsEntry α)

/-- What is wrong with the ranges and boxes of a document. -/
inductive DocumentFault where
  /-- There are not as many boxes as characters. -/
  | boxCount (chars boxes : Nat)
  /-- The range of a page does not start where the last one stopped, or is reversed. -/
  | rangeStart (page start stop expected : Nat)
  /-- The ranges do not end with the text. -/
  | rangeEnd (stop chars : Nat)
deriving DecidableEq

namespace DocumentFault

def message : DocumentFault → String
  | boxCount chars boxes => s!"text has {chars} chars but there are {boxes} char boxes"
  | rangeStart page start stop expected =>
    s!"page {page} range {start}..{stop} does not continue at {expected}"
  | rangeEnd stop chars => s!"page ranges end at {stop}, text has {chars} chars"

end DocumentFault

namespace Document

def empty : Document α := ⟨"", [], [], []⟩

/-- Appends a finished page, whose range starts where the text ended. -/
def pushPage (document : Document α) (pageIndex : Nat) (mediaBox : Rect α) (page : PageText α)
    (deskewAngle : α) (rotation : Nat) : Document α :=
  let start := document.charBoxes.length
  { document with
    text := document.text ++ page.text
    charBoxes := document.charBoxes ++ page.boxes
    pages := document.pages ++
      [⟨pageIndex, mediaBox.extent, start, start + page.length, deskewAngle, rotation⟩] }

/-- The text of the first page with an index. A range that is reversed reaches to the end of the
text. -/
def pageText? (document : Document α) (pageIndex : Nat) : Option String :=
  (document.pages.find? fun record => record.pageIndex == pageIndex).map fun record =>
    let rest := document.text.toList.drop record.start
    String.ofList <|
      if record.stop < record.start then rest else rest.take (record.stop - record.start)

/-- The boxes in the range of a page; none if the range is not within the boxes. -/
def boxesOf (document : Document α) (record : PageRecord α) : List (Option (CharBox α)) :=
  if record.start ≤ record.stop ∧ record.stop ≤ document.charBoxes.length then
    (document.charBoxes.drop record.start).take (record.stop - record.start)
  else []

/-- The boxes of all pages, each with the index of its page; a character without a box has the box
of no area at the origin. -/
def boxesWithPages (document : Document α) : List (Nat × CharBox α) :=
  document.pages.flatMap fun record =>
    (document.boxesOf record).map fun box? => (record.pageIndex, box?.getD CharBox.zero)

/-- Checks that ranges follow each other, and tells where they end. -/
def checkRanges (expected : Nat) : List (PageRecord α) → Except DocumentFault Nat
  | [] => .ok expected
  | record :: rest =>
    if record.start ≠ expected ∨ record.stop < record.start then
      .error (.rangeStart record.pageIndex record.start record.stop expected)
    else checkRanges record.stop rest

/-- Checks that there is a box for every character and that the ranges partition the text. -/
def check (document : Document α) : Except DocumentFault Unit :=
  let chars := document.text.length
  if chars ≠ document.charBoxes.length then .error (.boxCount chars document.charBoxes.length)
  else
    match checkRanges 0 document.pages with
    | .error fault => .error fault
    | .ok stop => if stop ≠ chars then .error (.rangeEnd stop chars) else .ok ()

end Document

end PlacedText
