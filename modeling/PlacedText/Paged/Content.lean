import PlacedText.Decimal.Trimmed
import PlacedText.Drawing.Recording
import PlacedText.Paged.Basic

/-! # Transforming the content of a page

The content of a page is transformed by a stream in front of it that holds a single operator. Taking
the stream away again leaves the content as it was.
-/

namespace PlacedText

variable {β : Type}

namespace Transform

/-- The operator that puts a transform in front of the current one. -/
def operatorText (t : Transform Float) : String :=
  " ".intercalate (t.toList.map (Decimal.trimmed 6)) ++ " cm\n"

end Transform

namespace PagedStore

/-- The glyphs and warnings that the interpretation of a page comes to, unless a fault or a font
ends it. -/
def interpret (paged : PagedStore) (options : ExtractOptions) (index : Nat) :
    Except ReadFault (Recording Float) := do
  let page ← paged.pageId index
  let (recording, fault?) := paged.store.interpret options page
  recording.ended fault?

/-- The parts of the content that a page has, as its own entry gives them. -/
def ownParts (store : Store) (contents? : Option Object) : List Object :=
  match contents? with
  | none => []
  | some contents =>
    match store.resolve contents with
    | .array items => items
    | _ => [contents]

end PagedStore

/-- A stream in front of the content of a page, with what it takes to withdraw it. -/
structure PrependedStream where
  page : Nat
  stream : Nat
  /-- The content entry of the page before. -/
  contents? : Option Object

namespace PageEdit

/-- Transforms the content of a page. -/
def prepend (index : Nat) (t : Transform Float) : PageEdit PrependedStream := do
  let page ← read fun paged => paged.pageId index
  let paged ← get
  match paged.store.dictionary page with
  | .error fault => throw (.object fault)
  | .ok entries =>
    let contents? := entries.find? "Contents"
    let parts := PagedStore.ownParts paged.store contents?
    let (store, stream) := paged.store.add (.ofData [] (Text.Utf8.encode t.operatorText))
    set { paged with store }
    changePage index fun entries => entries.set "Contents" (.array (.reference stream :: parts))
    return ⟨page, stream, contents?⟩

/-- Turns the content of a page counter-clockwise about the centre of its crop box. -/
def rotateContents (index : Nat) (degrees : Float) : PageEdit Unit := do
  let cropBox ← read fun paged => paged.cropBox index
  let _ ← prepend index (Transform.rotationAbout degrees cropBox.centre)

end PageEdit

namespace PagedStore

/-- The content entry of a page as it was before. -/
def restoreContents (prepended : PrependedStream) (entries : Dictionary) : Dictionary :=
  match prepended.contents? with
  | some contents => entries.set "Contents" contents
  | none => entries.erase "Contents"

/-- Withdraws a stream in front of the content of a page. -/
def withdraw (paged : PagedStore) (prepended : PrependedStream) : PagedStore :=
  let store :=
    match paged.store.modifyDictionary prepended.page (restoreContents prepended) with
    | .ok store => store
    | .error _ => paged.store
  { paged with store := store.erase prepended.stream }

end PagedStore

namespace PageEdit

/-- Does something while the content of a page is transformed. -/
def underTransform (index : Nat) (t : Transform Float) (action : PageEdit β) : PageEdit β :=
  fun paged =>
    match prepend index t paged with
    | .error fault paged => .error fault paged
    | .ok prepended paged =>
      match action paged with
      | .ok answer paged => .ok answer (paged.withdraw prepended)
      | .error fault paged => .error fault (paged.withdraw prepended)

end PageEdit

end PlacedText
