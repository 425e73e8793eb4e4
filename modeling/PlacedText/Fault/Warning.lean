import PlacedText.Json.Basic

/-! # Warnings

A warning reports a problem that the work goes on in spite of, with as much of its place as is
known.
-/

namespace PlacedText

/-- The kinds of problems. -/
inductive WarningKind where
  /-- A font is not among the resources; its text is not shown. -/
  | missingFont
  /-- An object is missing or has the wrong type. -/
  | malformedObject
  /-- Glyphs without a Unicode mapping are shown as replacement characters. -/
  | encodingFallback
  /-- A page failed and has no record. -/
  | pageSkipped
  /-- A named destination is defined again; the first definition stays. -/
  | duplicateDestination
deriving DecidableEq

namespace WarningKind

/-- The code shown to the user. -/
def code : WarningKind → String
  | missingFont => "MISSING_FONT"
  | malformedObject => "MALFORMED_OBJECT"
  | encodingFallback => "ENCODING_FALLBACK"
  | pageSkipped => "PAGE_SKIPPED"
  | duplicateDestination => "DUPLICATE_DESTINATION"

/-- The name of the kind in data. -/
def name : WarningKind → String
  | missingFont => "MissingFont"
  | malformedObject => "MalformedObject"
  | encodingFallback => "EncodingFallback"
  | pageSkipped => "PageSkipped"
  | duplicateDestination => "DuplicateDestination"

/-- The kind of a name. -/
def ofName? (name : String) : Option WarningKind :=
  [missingFont, malformedObject, encodingFallback, pageSkipped, duplicateDestination].find?
    fun kind => kind.name == name

end WarningKind

structure Warning where
  kind : WarningKind
  description : String
  /-- The position of the page, from zero. -/
  page? : Option Nat
  /-- The position of the operator in its content stream. -/
  operator? : Option Nat
  fontName? : Option String
deriving DecidableEq

namespace Warning

/-- A warning without a place. -/
def of (kind : WarningKind) (description : String) : Warning :=
  ⟨kind, description, none, none, none⟩

/-- Puts the warning on a page, unless it is on one already. -/
def onPage (warning : Warning) (page : Nat) : Warning :=
  { warning with page? := some (warning.page?.getD page) }

def atOperator (warning : Warning) (operator : Nat) (fontName : String) : Warning :=
  { warning with operator? := some operator, fontName? := some fontName }

/-- The warning as a line of text. -/
def message (warning : Warning) : String :=
  let page := match warning.page? with
    | some page => s!"page {page}: "
    | none => ""
  let place := match warning.operator?, warning.fontName? with
    | some operator, some font => s!" (operator {operator}, font {font})"
    | some operator, none => s!" (operator {operator})"
    | none, _ => ""
  page ++ warning.kind.code ++ ": " ++ warning.description ++ place

/-- The warning as data. -/
def toJson (warning : Warning) : Json :=
  let count (n? : Option Nat) : Json := (n?.map fun n => Json.integer n).getD .null
  .object [("code", .object [("type", .string warning.kind.name)]),
    ("description", .string warning.description), ("page", count warning.page?),
    ("operator_index", count warning.operator?),
    ("font_name", (warning.fontName?.map Json.string).getD .null)]

/-- The warnings of a kind. -/
def ofKind (kind : WarningKind) (warnings : List Warning) : List Warning :=
  warnings.filter fun warning => warning.kind == kind

end Warning

end PlacedText
