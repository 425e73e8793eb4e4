import PlacedText.Font.CMap
import PlacedText.Font.Encoding
import PlacedText.Store.Basic

/-! # Fonts

A font splits a shown string into character codes and gives each code an advance and, if it can, a
text. What a font does not tell has standard values. A font whose widths or glyph names count on
from the last code cannot be loaded, which ends the program (`Font.load`).
-/

namespace PlacedText

variable {α : Type} [Scalar α]

/-- The name of a font and its heights, in thousandths of text space. -/
structure FontInfo (α : Type) where
  /-- The name without the prefix that marks a subset. -/
  name : String
  ascent : α
  descent : α
  /-- Zero if the font does not tell. -/
  capHeight : α
  bbox? : Option (List α)

namespace FontInfo

/-- The heights of a font that does not tell. -/
def standard (name : String) : FontInfo α := ⟨name, 750.0, -250.0, 0.0, none⟩

/-- Top and bottom of a line: one em from the descent up, or from the baseline if the font gives
neither ascent nor descent. -/
def lineExtent (info : FontInfo α) : α × α :=
  if info.ascent == 0.0 && info.descent == 0.0 then (1000.0, 0.0)
  else (1000.0 + info.descent, info.descent)

end FontInfo

/-- A character code with the number of bytes it was read from. -/
structure CharCode where
  code : UInt32
  bytes : Nat
deriving DecidableEq

namespace CharCode

/-- Word spacing applies to the code 32 of a single byte. -/
def isWordSpace (code : CharCode) : Bool := code.bytes == 1 && code.code == 32

end CharCode

/-- The widths of a font, in thousandths of text space. -/
inductive Widths (α : Type) where
  /-- Widths of consecutive one-byte codes. -/
  | simple (firstCode : UInt32) (widths : List α) (missing : α)
  /-- Widths of two-byte codes. -/
  | composite (byCode : Std.HashMap UInt32 α) (missing : α)

structure Font (α : Type) where
  info : FontInfo α
  widths : Widths α
  toUnicode? : Option CMap
  encoding? : Option Encoding
  /-- What loading the font ended the program with; this font is then a stand-in. -/
  abort? : Option FontAbort

namespace Font

/-- The largest character code. -/
def maxCode : Int := 4294967295

/-- A number cut to a character code. -/
def codeOfNumber (x : α) : UInt32 := (Scalar.clampToInt 0 maxCode x).toNat.toUInt32

/-- A name without the six capital letters and the plus sign that mark a subset. -/
def stripSubset (name : String) : String :=
  let letters := name.toList
  let mark := letters.takeWhile (· ≠ '+')
  match letters.dropWhile (· ≠ '+') with
  | _ :: rest =>
    if mark.length = 6 ∧ mark.all Char.isUpper then String.ofList rest else name
  | [] => name

/-! ## Loading -/

/-- The heights that the descriptor of a font gives. -/
def loadInfo (store : Store) (font : Dictionary) (name : String) : FontInfo α :=
  match store.dictionary? font "FontDescriptor" with
  | none => .standard name
  | some descriptor =>
    { name
      ascent := (store.number? descriptor "Ascent").getD 750.0
      descent := (store.number? descriptor "Descent").getD (-250.0)
      capHeight := (store.number? descriptor "CapHeight").getD 0.0
      bbox? := do
        let items ← store.array? descriptor "FontBBox"
        if items.length = 4 then store.numbers? items else none }

/-- The codes from one to another, at most `2 ^ 16` of them. -/
def codeRange (first last : UInt32) : List UInt32 :=
  (List.range (CMap.rangeLength first last)).map fun offset => first + offset.toUInt32

/-- The code so many codes behind another; there is none behind the last code. -/
def codeBehind (code offset : UInt32) : Except FontAbort UInt32 :=
  if code.toNat + offset.toNat ≤ 4294967295 then .ok (code + offset) else .error .codeOverflow

/-- The widths that consecutive codes are given by a list. An item that is no number gives none, and
its code is not counted. -/
def listedWidths (store : Store) (first : UInt32) (items : List Object) :
    Except FontAbort (List (UInt32 × α)) :=
  let widths := items.zipIdx.filterMap fun (item, offset) =>
    (store.resolve item).number?.map fun width => (offset.toUInt32, width)
  widths.mapM fun (offset, width) => do return (← codeBehind first offset, width)

/-- The widths in a list of widths of two-byte codes: a code with an array of the widths from it on,
or a first and a last code with one width for all. An item that should be a code and is none is
passed over. -/
def widthEntries (store : Store) : List Object → Except FontAbort (List (UInt32 × α))
  | [] => .ok []
  | item :: rest =>
    match (store.resolve item).number? (α := α) with
    | none => widthEntries store rest
    | some number =>
      let first := codeOfNumber number
      match rest with
      | [] => .ok []
      | next :: others =>
        match store.resolve next with
        | .array widths => do
          let here ← listedWidths store first widths
          return here ++ (← widthEntries store others)
        | last =>
          let last := (last.number?.map (codeOfNumber (α := α))).getD first
          match others with
          | [] => .ok []
          | width :: later =>
            let here := match (store.resolve width).number? with
              | some width => (codeRange first last).map fun code => (code, width)
              | none => []
            do return here ++ (← widthEntries store later)

/-- The widths of two-byte codes; a later width of a code replaces an earlier one. -/
def loadCompositeWidths (store : Store) (font : Dictionary) :
    Except FontAbort (Std.HashMap UInt32 α) := do
  let entries ← widthEntries store ((store.array? font "W").getD [])
  return entries.foldl (fun byCode (code, width) => byCode.insert code width) ∅

/-- The glyph names in a list of differences: an integer sets the code of the next name, and each
name takes the code after that of the name before. The next code is counted even behind the last
name. -/
def differences (store : Store) (code : UInt32) :
    List Object → Except FontAbort (List (UInt32 × String))
  | [] => .ok []
  | item :: rest =>
    match store.resolve item with
    | .integer start =>
      differences store (if 0 ≤ start ∧ start ≤ maxCode then start.toNat.toUInt32 else 0) rest
    | .name glyph => do
      let next ← codeBehind code 1
      return (code, Text.Utf8.decodeLossy glyph) :: (← differences store next rest)
    | _ => differences store code rest

/-- The encoding of a simple font. -/
def loadEncoding (store : Store) (font : Dictionary) : Except FontAbort Encoding :=
  match store.value? font "Encoding" with
  | some (.name name) =>
    .ok { Encoding.standard with base := Encoding.baseOfName (Text.Utf8.decodeLossy name) }
  | some (.dictionary entries) => do
    let names ← differences store 0 ((store.array? entries "Differences").getD [])
    return {
      base := ((store.name? entries "BaseEncoding").map Encoding.baseOfName).getD
        Encoding.standard.base
      differences := names.foldl (fun byCode (code, name) => byCode.insert code name) ∅ }
  | _ => .ok .standard

/-- The character map of a font, if it has one that can be read. -/
def loadToUnicode? (store : Store) (font : Dictionary) : Option CMap := do
  let (entries, data) ← (← store.value? font "ToUnicode").stream?
  (CMap.ofStream (← (store.decoded entries data).toOption)).toOption

/-- The width of a two-byte code that a font does not tell. -/
def standardCompositeWidth : α := 1000.0

/-- The width of a one-byte code that a font does not tell. -/
def standardSimpleWidth : α := 600.0

/-- A font of two-byte codes, whose heights and widths are those of its descendant. -/
def loadComposite (store : Store) (font : Dictionary) (name : String) :
    Except FontAbort (Font α) := do
  let toUnicode? := loadToUnicode? store font
  let descendant? := do
    (store.resolve (← (← store.array? font "DescendantFonts").head?)).dictionary?
  match descendant? with
  | some descendant =>
    let missing := (store.number? descendant "DW").getD standardCompositeWidth
    let widths ← loadCompositeWidths store descendant
    return {
      info := loadInfo store descendant name
      widths := .composite widths missing
      toUnicode?
      encoding? := none
      abort? := none }
  | none => return ⟨.standard name, .composite ∅ standardCompositeWidth, toUnicode?, none, none⟩

/-- A font of one-byte codes. -/
def loadSimple (store : Store) (font : Dictionary) (name : String) :
    Except FontAbort (Font α) := do
  let firstCode := ((store.number? (α := α) font "FirstChar").map codeOfNumber).getD 0
  let widths := ((store.array? font "Widths").getD []).map fun item =>
    (store.resolve item).number?.getD 0.0
  let missing := (store.dictionary? font "FontDescriptor" >>= fun descriptor =>
    store.number? descriptor "MissingWidth").getD standardSimpleWidth
  let encoding ← loadEncoding store font
  return {
    info := loadInfo store font name
    widths := .simple firstCode widths missing
    toUnicode? := loadToUnicode? store font
    encoding? := some encoding
    abort? := none }

/-- The font of a dictionary. It has the name of its resource if it has none of its own. -/
def load (store : Store) (font : Dictionary) (resourceName : String) :
    Except FontAbort (Font α) :=
  let name := ((store.name? font "BaseFont").map stripSubset).getD resourceName
  if store.name? font "Subtype" = some "Type0" then loadComposite store font name
  else loadSimple store font name

/-- The font that stands for one that is missing. -/
def fallback (resourceName : String) : Font α :=
  ⟨.standard resourceName, .simple 0 [] standardSimpleWidth, none, some .standard, none⟩

/-- The font of a dictionary, or a stand-in that tells what loading it ended the program with. -/
def ofDictionary (store : Store) (font : Dictionary) (resourceName : String) : Font α :=
  match load store font resourceName with
  | .ok font => font
  | .error abort => { (fallback resourceName : Font α) with abort? := some abort }

/-! ## Codes -/

def isComposite (font : Font α) : Bool :=
  match font.widths with
  | .composite .. => true
  | .simple .. => false

/-- The two-byte codes of a string; a last single byte is a code by itself. -/
def pairCodes : Bytes → List CharCode
  | high :: low :: rest => ⟨high.toUInt32 <<< 8 ||| low.toUInt32, 2⟩ :: pairCodes rest
  | [b] => [⟨b.toUInt32, 1⟩]
  | [] => []

/-- The character codes of a shown string. -/
def codes (font : Font α) (bytes : Bytes) : List CharCode :=
  if font.isComposite then pairCodes bytes else bytes.map fun b => ⟨b.toUInt32, 1⟩

/-- The width that a font has for a code, in thousandths. -/
def rawWidth (font : Font α) (code : UInt32) : α :=
  match font.widths with
  | .simple firstCode widths missing =>
    if code < firstCode then missing else widths.getD (code - firstCode).toNat missing
  | .composite byCode missing => byCode.getD code missing

/-- The advance of a code in text space, for a font of size one. -/
def width (font : Font α) (code : UInt32) : α := font.rawWidth code / 1000.0

/-- Reads the text of a code: that of the character map, or else that of the encoding. -/
def readText (font : Font α) (code : UInt32) : Except GlyphName.CutFault (Option String) :=
  match font.toUnicode? >>= fun cmap => cmap.lookup? code with
  | some text => .ok (some text)
  | none =>
    match font.encoding? with
    | some encoding => encoding.readText code
    | none => .ok none

/-- What reading the text of a code ends the program with. -/
def abortAt? (font : Font α) (code : UInt32) : Option FontAbort :=
  FontAbort.of? ((font.readText code).mapError fun cut => .cutName cut.position)

end Font

end PlacedText
