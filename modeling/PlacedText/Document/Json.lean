import PlacedText.Document.Basic
import PlacedText.Json.Decode

/-! # Documents as JSON

The records of a document written as JSON objects and read back. Boxes are arrays of four numbers.
-/

namespace PlacedText

namespace Extent

def toJson (extent : Extent Float) : Json := .array (extent.toList.map .float)

def ofJson? (value : Json) : Option (Extent Float) := do
  Extent.ofList? (← value.list? Json.float?)

end Extent

namespace PageRecord

def toJson (record : PageRecord Float) : Json :=
  .object [("page_index", .integer record.pageIndex), ("bbox", record.bbox.toJson),
    ("text_range", .object [("start", .integer record.start), ("end", .integer record.stop)]),
    ("deskew_angle", .float record.deskewAngle), ("rotation", .integer record.rotation)]

/-- A range has no members but its bounds. -/
def rangeOfJson? (value : Json) : Option (Nat × Nat) := do
  let bounds ← value.fields? ["start", "end"]
  if bounds.any fun member => member.1 ≠ "start" ∧ member.1 ≠ "end" then none
  else
    return (← Json.required bounds "start" (Json.count? 64),
      ← Json.required bounds "end" (Json.count? 64))

def ofJson? (value : Json) : Option (PageRecord Float) := do
  let fields ← value.fields? ["page_index", "bbox", "text_range", "deskew_angle", "rotation"]
  let (start, stop) ← Json.required fields "text_range" rangeOfJson?
  return {
    pageIndex := ← Json.required fields "page_index" (Json.count? 64)
    bbox := ← Json.required fields "bbox" Extent.ofJson?
    start
    stop
    deskewAngle := ← Json.required fields "deskew_angle" Json.float?
    rotation := ← Json.required fields "rotation" (Json.count? 16) }

end PageRecord

namespace ContentsEntry

def toJson (entry : ContentsEntry Float) : Json :=
  .object [("title", .string entry.title), ("level", .integer entry.level),
    ("left", .float entry.left), ("top", .float entry.top), ("page", .integer entry.page)]

def ofJson? (value : Json) : Option (ContentsEntry Float) := do
  let fields ← value.fields? ["title", "level", "left", "top", "page"]
  return {
    title := ← Json.required fields "title" Json.string?
    level := ← Json.required fields "level" (Json.count? 64)
    left := ← Json.required fields "left" Json.float?
    top := ← Json.required fields "top" Json.float?
    page := ← Json.required fields "page" (Json.count? 64) }

end ContentsEntry

namespace Document

def toJson (document : Document Float) : Json :=
  .object [("text", .string document.text),
    ("char_boxes", .array (document.charBoxes.map fun box? =>
      (box?.map Extent.toJson).getD .null)),
    ("pages", .array (document.pages.map PageRecord.toJson)),
    ("table_of_contents", .array (document.tableOfContents.map ContentsEntry.toJson))]

/-- A document is read from a record with all its fields. -/
def ofJson? (value : Json) : Option (Document Float) := do
  let fields ← value.fields? ["text", "char_boxes", "pages", "table_of_contents"]
  return {
    text := ← Json.required fields "text" Json.string?
    charBoxes := ← Json.required fields "char_boxes" (Json.list? (Json.nullable? Extent.ofJson?))
    pages := ← Json.required fields "pages" (Json.list? PageRecord.ofJson?)
    tableOfContents :=
      ← Json.required fields "table_of_contents" (Json.list? ContentsEntry.ofJson?) }

end Document

end PlacedText
