import PlacedText.Page.CharBox
import PlacedText.Text.CharClass

/-! # Laying out glyphs as text

Glyphs come with two boxes: one in the upright frame of their orientation, which decides reading
order and separators, and one in the frame of the page, which is recorded. Every character of the
text has one place in the list of boxes; separators and characters that do not print have no box.
-/

namespace PlacedText

variable {α : Type} [Scalar α]

/-- The treatment of glyphs without area and of control characters. -/
inductive NonPrintablePolicy where
  /-- They stay in the text without a box. -/
  | keep
  /-- They are left out. -/
  | drop
deriving DecidableEq

/-- The texts inserted between words, lines, paragraphs and pages. The end of a paragraph follows
the separator of its last line. -/
structure Separators where
  word : String
  line : String
  paragraphEnd : String
  pageEnd : String
deriving DecidableEq

namespace Separators

/-- A blank between words, a line feed after a line and another after a paragraph, and a form feed
after a page. -/
def standard : Separators := ⟨" ", "\n", "\n", "\x0c"⟩

end Separators

/-- How glyphs become text. -/
structure LayoutOptions (α : Type) where
  /-- Order glyphs by position instead of the order they are drawn in. -/
  sortByPosition : Bool
  /-- The distance between baselines that ends a paragraph, in heights of the line before. -/
  paragraphGap : α
  /-- The gap that separates words, in average widths of the glyphs beside it. -/
  wordGap : α
  nonPrintable : NonPrintablePolicy
  separators : Separators

namespace LayoutOptions

def standard : LayoutOptions α := ⟨true, 3.5, 0.5, .keep, .standard⟩

end LayoutOptions

/-- A glyph ready to be laid out. -/
structure PlacedGlyph (α : Type) where
  text : String
  /-- The box in the upright frame of the orientation of the glyph. -/
  layoutBox : Box α
  /-- The box in the frame of the page. -/
  outputBox : Box α

namespace PlacedGlyph

/-- A glyph prints unless its box has no area or its text has nothing but control characters. -/
def isNonPrintable (glyph : PlacedGlyph α) : Bool :=
  glyph.outputBox.width * glyph.outputBox.height == 0.0 || glyph.text.toList.all Text.isControl

def isBlank (glyph : PlacedGlyph α) : Bool := glyph.text.toList.all Text.isBlank

/-- The height of the middle of the glyph. -/
def middle (glyph : PlacedGlyph α) : α := (glyph.layoutBox.top + glyph.layoutBox.bottom) / 2.0

/-- The box recorded for the characters of the glyph. -/
def charBox? (glyph : PlacedGlyph α) : Option (CharBox α) :=
  if glyph.isNonPrintable then none else some (CharBox.ofBox glyph.outputBox)

end PlacedGlyph

/-! ## Lines -/

/-- The vertical extent of a line of glyphs. -/
structure Band (α : Type) where
  top : α
  bottom : α

namespace Band

def ofGlyph (glyph : PlacedGlyph α) : Band α := ⟨glyph.layoutBox.top, glyph.layoutBox.bottom⟩

/-- Whether the middle of a glyph lies in the band. -/
def holds (band : Band α) (glyph : PlacedGlyph α) : Bool :=
  glyph.middle ≥ band.top && glyph.middle ≤ band.bottom

def extend (band : Band α) (glyph : PlacedGlyph α) : Band α :=
  ⟨Scalar.min band.top glyph.layoutBox.top, Scalar.max band.bottom glyph.layoutBox.bottom⟩

end Band

namespace Layout

/-- Puts a glyph in front of the first line. -/
def consLine (glyph : PlacedGlyph α) : List (List (PlacedGlyph α)) → List (List (PlacedGlyph α))
  | [] => [[glyph]]
  | line :: lines => (glyph :: line) :: lines

/-- The lines from a glyph on, given the band of its line so far. The next glyph stays on the line
when its middle lies in the band and it may follow the glyph before it. -/
def linesFrom (follows : PlacedGlyph α → PlacedGlyph α → Bool) (band : Band α)
    (glyph : PlacedGlyph α) : List (PlacedGlyph α) → List (List (PlacedGlyph α))
  | [] => [[glyph]]
  | next :: rest =>
    if band.holds next && follows glyph next then
      consLine glyph (linesFrom follows (band.extend next) next rest)
    else [glyph] :: linesFrom follows (Band.ofGlyph next) next rest

/-- Splits glyphs into lines without changing their order. -/
def lines (follows : PlacedGlyph α → PlacedGlyph α → Bool) :
    List (PlacedGlyph α) → List (List (PlacedGlyph α))
  | [] => []
  | glyph :: rest => linesFrom follows (Band.ofGlyph glyph) glyph rest

/-- Lines from top to bottom, each from left to right. -/
def linesByPosition (glyphs : List (PlacedGlyph α)) : List (List (PlacedGlyph α)) :=
  let byBaseline := Scalar.sortOn (fun glyph => glyph.layoutBox.bottom) glyphs
  (lines (fun _ _ => true) byBaseline).map (Scalar.sortOn fun glyph => glyph.layoutBox.left)

/-- Whether a glyph is not further left than the glyph before it is wide. -/
def advances (glyph next : PlacedGlyph α) : Bool :=
  !(next.layoutBox.left < glyph.layoutBox.left - glyph.layoutBox.width)

/-- Lines in the order the glyphs are drawn in; going back to the left starts a new line. -/
def linesAsDrawn (glyphs : List (PlacedGlyph α)) : List (List (PlacedGlyph α)) :=
  lines advances glyphs

/-- Whether two neighbours on a line belong to different words. -/
def isWordGap (tolerance : α) (glyph next : PlacedGlyph α) : Bool :=
  if glyph.isBlank || next.isBlank then false
  else
    let gap := next.layoutBox.left - glyph.layoutBox.right
    gap > tolerance * ((glyph.layoutBox.width + next.layoutBox.width) / 2.0)

/-- Whether a paragraph ends between two lines: their baselines are further apart than so many
heights of the first of them. -/
def isParagraphBreak (gap : α) (line next : List (PlacedGlyph α)) : Bool :=
  match line, next with
  | first :: _, nextFirst :: _ =>
    let height := line.foldl (fun height glyph => Scalar.max height glyph.layoutBox.height) 0.0
    let apart := Scalar.abs (nextFirst.layoutBox.bottom - first.layoutBox.bottom)
    height > 0.0 && apart > gap * height
  | _, _ => false

end Layout

/-! ## Text -/

/-- A character of the text with its box. -/
structure Mark (α : Type) where
  char : Char
  box? : Option (CharBox α)

/-- The text of a page, character by character. -/
structure PageText (α : Type) where
  marks : List (Mark α)

namespace PageText

def empty : PageText α := ⟨[]⟩

def text (page : PageText α) : String := String.ofList (page.marks.map Mark.char)

def boxes (page : PageText α) : List (Option (CharBox α)) := page.marks.map Mark.box?

def length (page : PageText α) : Nat := page.marks.length

def isEmpty (page : PageText α) : Bool := page.marks.isEmpty

/-- The characters of a text, each with the same box. -/
def marksOf (text : String) (box? : Option (CharBox α)) : List (Mark α) :=
  text.toList.map fun char => ⟨char, box?⟩

def append (page : PageText α) (marks : List (Mark α)) : PageText α := ⟨page.marks ++ marks⟩

/-- Appends text whose characters all have the same box. -/
def pushChars (page : PageText α) (text : String) (box? : Option (CharBox α)) : PageText α :=
  page.append (marksOf text box?)

/-- Appends text without boxes. -/
def pushSeparator (page : PageText α) (separator : String) : PageText α :=
  page.pushChars separator none

/-- The characters of a line from a glyph on, with a separator between words. -/
def lineMarks (options : LayoutOptions α) : List (PlacedGlyph α) → List (Mark α)
  | [] => []
  | [glyph] => marksOf glyph.text glyph.charBox?
  | glyph :: next :: rest =>
    marksOf glyph.text glyph.charBox? ++
      ((if Layout.isWordGap options.wordGap glyph next then marksOf options.separators.word none
        else []) ++ lineMarks options (next :: rest))

/-- The characters of some lines, with separators between lines and paragraphs. -/
def linesMarks (options : LayoutOptions α) : List (List (PlacedGlyph α)) → List (Mark α)
  | [] => []
  | [line] => lineMarks options line
  | line :: next :: rest =>
    lineMarks options line ++
      (marksOf options.separators.line none ++
        ((if Layout.isParagraphBreak options.paragraphGap line next then
            marksOf options.separators.paragraphEnd none
          else []) ++ linesMarks options (next :: rest)))

/-- The glyphs of a run that go into the text. -/
def kept (options : LayoutOptions α) (glyphs : List (PlacedGlyph α)) : List (PlacedGlyph α) :=
  match options.nonPrintable with
  | .keep => glyphs
  | .drop => glyphs.filter fun glyph => !glyph.isNonPrintable

/-- The lines of a run. -/
def runLines (options : LayoutOptions α) (glyphs : List (PlacedGlyph α)) :
    List (List (PlacedGlyph α)) :=
  if options.sortByPosition then Layout.linesByPosition (kept options glyphs)
  else Layout.linesAsDrawn (kept options glyphs)

/-- Appends a run of glyphs of one orientation. A run that has anything to show is set apart from
what comes before it by a line separator. -/
def pushRun (page : PageText α) (options : LayoutOptions α) (glyphs : List (PlacedGlyph α)) :
    PageText α :=
  match runLines options glyphs with
  | [] => page
  | lines =>
    let opening := if page.isEmpty then [] else marksOf options.separators.line none
    page.append (opening ++ linesMarks options lines)

/-- Ends the page. -/
def finish (page : PageText α) (separators : Separators) : PageText α :=
  page.pushSeparator separators.pageEnd

end PageText

end PlacedText
